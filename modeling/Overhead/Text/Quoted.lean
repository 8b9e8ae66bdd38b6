import Overhead.Text.Blank

/-!
# Quoted text

Errors show a text in double quotes, with everything in it that could not be seen or would end the
quotes written as an escape. Names are shown between backquotes as they are.
-/

namespace Overhead
namespace Quoted

def numbered (c : Char) : List Char :=
  '\\' :: 'u' :: '\x7b' :: (Nat.toDigits 16 c.toNat ++ ['\x7d'])

def escape (c : Char) : List Char :=
  if c = '"' then ['\\', '"']
  else if c = '\\' then ['\\', '\\']
  else if c = '\n' then ['\\', 'n']
  else if c = '\r' then ['\\', 'r']
  else if c = '\t' then ['\\', 't']
  else if c = '\x00' then ['\\', '0']
  else if Blank.contains c then numbered c
  else [c]

def quote (text : String) : String :=
  String.ofList ('"' :: text.toList.flatMap escape ++ ['"'])

def ticked (text : String) : String :=
  "\x60" ++ text ++ "\x60"

end Quoted
end Overhead
