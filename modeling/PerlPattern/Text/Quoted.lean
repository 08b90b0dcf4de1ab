import PerlPattern.Unicode.Classes
import PerlPattern.Unicode.GeneralCategory

/-! # Quoted text

Text between double quotes, fit to be shown in a message: quotes, backslashes
and common control characters are written with a backslash, and characters
that show nothing, or that attach to the one before, as a code point in braces.
-/

namespace PerlPattern.Quoted

/-- Characters without a glyph of their own: controls, formats, separators other than the space,
private and unassigned code points, and marks that extend the character before them. -/
def unprintable : CodeSet :=
  [Unicode.GeneralCategory.cc, Unicode.GeneralCategory.cf, Unicode.GeneralCategory.co,
    Unicode.GeneralCategory.cn, Unicode.GeneralCategory.zl, Unicode.GeneralCategory.zp,
    Unicode.GeneralCategory.zs, Unicode.graphemeExtend].foldl CodeSet.union {}

def isPrintable (c : Char) : Bool := c = ' ' || !unprintable.contains c.toNat

/-- A code point in braces, in hexadecimal without leading zeros. -/
def codePoint (c : Char) : List Char :=
  '\\' :: 'u' :: Char.ofNat 0x7B :: Nat.toDigits 16 c.toNat ++ [Char.ofNat 0x7D]

def quoteChar (c : Char) : List Char :=
  match c with
  | '\x00' => ['\\', '0']
  | '\t' => ['\\', 't']
  | '\n' => ['\\', 'n']
  | '\r' => ['\\', 'r']
  | '"' => ['\\', '"']
  | '\\' => ['\\', '\\']
  | c => if isPrintable c then [c] else codePoint c

def quote (text : String) : String :=
  String.ofList ('"' :: text.toList.flatMap quoteChar ++ ['"'])

end PerlPattern.Quoted
