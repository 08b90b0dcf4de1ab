import PerlPattern.Unicode.Classes
import PerlPattern.Unicode.GeneralCategory
import PerlPattern.Unicode.Script

/-! # Properties by name

A property name is compared loosely: a leading `is`, letter case, blanks,
hyphens, low lines and everything outside ASCII are dropped. A lone name is a
binary property, a general category or a script, looked up in that order.
-/

namespace PerlPattern.Unicode.Property

def looseChars (cs : List Char) : List Char :=
  (cs.filter fun c => c.toNat < 0x80 && !" _-".contains c).map Char.toLower

/-- The normal form under which names are compared. A lone `c` after `is` keeps its prefix,
since `isc` abbreviates another property than the category C. -/
def looseName (name : String) : String :=
  match name.toList with
  | i :: s :: rest =>
    if i.toLower = 'i' ∧ s.toLower = 's' then
      let kept := looseChars rest
      if kept = ['c'] then "isc" else String.ofList kept
    else String.ofList (looseChars name.toList)
  | cs => String.ofList (looseChars cs)

def binary : List (List String × CodeSet) :=
  [
    (["alphabetic", "alpha"], alphabetic),
    (["lowercase", "lower"], lowercase),
    (["uppercase", "upper"], uppercase),
    (["whitespace", "wspace", "space"], whiteSpace),
    (["graphemeextend", "grext"], graphemeExtend),
    (["cased"], cased),
    (["ideographic", "ideo"], ideographic),
    (["emoji"], emoji),
    (["dash"], dash),
    (["math"], math),
    (["hexdigit", "hex"], hexDigit),
    (["asciihexdigit", "ahex"], asciiHexDigit)
  ]

/-- Looks up a name in normal form in a table of named sets. -/
def lookup (name : String) (table : List (List String × CodeSet)) : Option CodeSet :=
  (table.find? (·.1.contains name)).map (·.2)

/-- The set of a lone name. The three names below are abbreviations of general categories first. -/
def named? (name : String) : Option CodeSet :=
  let key := looseName name
  let asBinary := if ["cf", "sc", "lc"].contains key then none else lookup key binary
  asBinary.orElse fun _ => (lookup key GeneralCategory.named).orElse fun _ => Script.find? key

/-- The set of a property and one of its values. -/
def valued? (name value : String) : Option CodeSet :=
  let key := looseName value
  match looseName name with
  | "generalcategory" | "gc" => lookup key GeneralCategory.named
  | "script" | "sc" => Script.find? key
  | _ => none

end PerlPattern.Unicode.Property
