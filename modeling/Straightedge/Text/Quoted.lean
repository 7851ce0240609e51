import Straightedge.Text.Hex
import Straightedge.Text.Printable

namespace Straightedge.Text.Quoted

def mark (text : List Char) : Char :=
  if text.contains '\x27' && !text.contains '\x22' then '\x22' else '\x27'

def escape (quote c : Char) : List Char :=
  if c = quote ∨ c = '\x5c' then ['\x5c', c]
  else if c = '\n' then ['\x5c', 'n']
  else if c = '\r' then ['\x5c', 'r']
  else if c = '\t' then ['\x5c', 't']
  else if isPrintable c then [c]
  else if c.toNat < 0x100 then ['\x5c', 'x'] ++ hex 2 c.toNat
  else if c.toNat < 0x10000 then ['\x5c', 'u'] ++ hex 4 c.toNat
  else ['\x5c', 'U'] ++ hex 8 c.toNat

end Quoted

def quoted (text : String) : String :=
  let quote := Quoted.mark text.toList
  String.ofList (quote :: text.toList.flatMap (Quoted.escape quote) ++ [quote])

end Straightedge.Text
