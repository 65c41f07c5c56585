import CallContract.Locale
import CallContract.Number.Double

/-!
# Localized — the separators of numbers in a locale

A language writes numbers with a decimal point and grouping commas or the other way round.
-/

namespace CallContract.Number

open CallContract.Text

/-- The two marks in a number. -/
structure Separators where
  decimal : Char
  grouping : Char
  deriving DecidableEq

namespace Separators

def point : Separators := ⟨'.', ','⟩

def comma : Separators := ⟨',', '.'⟩

/-- The languages that write a decimal comma. -/
def commaLanguages : List String :=
  ["de", "fr", "es", "it", "pt", "nl", "ru", "pl", "sv", "da", "nb", "fi", "cs", "tr", "id"]

/-- The separators of a locale; without one those of the decimal point. -/
def ofLocale? (locale? : Option Locale) : Separators :=
  match locale? with
  | some locale => if commaLanguages.contains locale.language then comma else point
  | none => point

/-- The text of a number without blanks around it, spaces, no-break spaces and grouping marks, and with a decimal
point. -/
def plain (sep : Separators) (s : List Char) : List Char :=
  ((trim s).filter fun c => c ≠ Char.ofNat 0xA0 ∧ c ≠ ' ' ∧ c ≠ sep.grouping).map
    fun c => if c = sep.decimal then '.' else c

/-- The text of a number with the decimal mark in place of the point. -/
def localize (sep : Separators) (s : List Char) : List Char :=
  s.map fun c => if c = '.' then sep.decimal else c

end Separators

end CallContract.Number
