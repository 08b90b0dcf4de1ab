/-! # Engine error codes

A search that fails reports a negative code. Codes from -1 to -25 have a kind
with a symbolic name; any other code is kept as it is.
-/

namespace PerlPattern

inductive EngineErrorKind where
  | noMatch
  | null
  | badOption
  | badMagic
  | unknownOpcode
  | noMemory
  | noSubstring
  | matchLimit
  | callout
  | badUtf8
  | badUtf8Offset
  | partialMatch
  | badPartial
  | internal
  | badCount
  | dfaUitem
  | dfaUcond
  | dfaUmlimit
  | dfaWssize
  | dfaRecurse
  | recursionLimit
  | nullWsLimit
  | badNewline
  | badOffset
  | shortUtf8
  deriving Repr, DecidableEq

namespace EngineErrorKind

/-- The kinds in the order of their codes, from -1 downwards. -/
def all : List EngineErrorKind :=
  [.noMatch, .null, .badOption, .badMagic, .unknownOpcode, .noMemory, .noSubstring, .matchLimit,
    .callout, .badUtf8, .badUtf8Offset, .partialMatch, .badPartial, .internal, .badCount,
    .dfaUitem, .dfaUcond, .dfaUmlimit, .dfaWssize, .dfaRecurse, .recursionLimit, .nullWsLimit,
    .badNewline, .badOffset, .shortUtf8]

def code (k : EngineErrorKind) : Int := -(all.idxOf k + 1 : Nat)

def name : EngineErrorKind → String
  | .noMatch => "PCRE_ERROR_NOMATCH"
  | .null => "PCRE_ERROR_NULL"
  | .badOption => "PCRE_ERROR_BADOPTION"
  | .badMagic => "PCRE_ERROR_BADMAGIC"
  | .unknownOpcode => "PCRE_ERROR_UNKNOWN_OPCODE"
  | .noMemory => "PCRE_ERROR_NOMEMORY"
  | .noSubstring => "PCRE_ERROR_NOSUBSTRING"
  | .matchLimit => "PCRE_ERROR_MATCHLIMIT"
  | .callout => "PCRE_ERROR_CALLOUT"
  | .badUtf8 => "PCRE_ERROR_BADUTF8"
  | .badUtf8Offset => "PCRE_ERROR_BADUTF8_OFFSET"
  | .partialMatch => "PCRE_ERROR_PARTIAL"
  | .badPartial => "PCRE_ERROR_BADPARTIAL"
  | .internal => "PCRE_ERROR_INTERNAL"
  | .badCount => "PCRE_ERROR_BADCOUNT"
  | .dfaUitem => "PCRE_ERROR_DFA_UITEM"
  | .dfaUcond => "PCRE_ERROR_DFA_UCOND"
  | .dfaUmlimit => "PCRE_ERROR_DFA_UMLIMIT"
  | .dfaWssize => "PCRE_ERROR_DFA_WSSIZE"
  | .dfaRecurse => "PCRE_ERROR_DFA_RECURSE"
  | .recursionLimit => "PCRE_ERROR_RECURSIONLIMIT, try increasing mysqld:thread_stack"
  | .nullWsLimit => "PCRE_ERROR_NULLWSLIMIT"
  | .badNewline => "PCRE_ERROR_BADNEWLINE"
  | .badOffset => "PCRE_ERROR_BADOFFSET"
  | .shortUtf8 => "PCRE_ERROR_SHORTUTF8"

end EngineErrorKind

/-- A failed search, by its code. -/
structure EngineError where
  code : Int
  deriving Repr, DecidableEq

namespace EngineError

def ofKind (k : EngineErrorKind) : EngineError := ⟨k.code⟩

instance : Coe EngineErrorKind EngineError := ⟨ofKind⟩

def kind? (e : EngineError) : Option EngineErrorKind :=
  if e.code < 0 then EngineErrorKind.all[e.code.natAbs - 1]? else none

/-- The symbolic name of a code. Codes that are not negative are no errors. -/
def name (e : EngineError) : String :=
  if 0 ≤ e.code then "NO_ERROR"
  else
    match e.kind? with
    | some k => k.name
    | none => "UNKNOWN_ERROR"

def message (e : EngineError) : String := s!"regex exec returned error {e.code} (" ++ e.name ++ ")"

end EngineError

end PerlPattern
