/-!
# Quoted text

Text between double quotes, as descriptions of engines and templates show it.
-/

namespace TextTemplate.Text.Quoted

def encodeChar (c : Char) : List Char :=
  match c with
  | '"' => ['\\', '"']
  | '\\' => ['\\', '\\']
  | '\n' => ['\\', 'n']
  | '\x0d' => ['\\', 'r']
  | '\t' => ['\\', 't']
  | '\x00' => ['\\', '0']
  | c => [c]

def encode (text : List Char) : List Char :=
  '"' :: text.flatMap encodeChar ++ ['"']

end TextTemplate.Text.Quoted
