import CallContract.Text.Blank
import CallContract.Text.Letter
import CallContract.Text.Casing
import CallContract.Text.Split

/-!
# Locale — language, country and variant

A locale is written as its parts that are not empty, joined with underscores.  Text is read back with hyphens for
underscores, any case and blanks around it.
-/

namespace CallContract

open CallContract.Text

structure Locale where
  language : String
  country : String
  variant : String
  deriving DecidableEq, Inhabited

namespace Locale

def enUS : Locale := ⟨"en", "US", ""⟩

/-- The parts that are not empty, joined with underscores. -/
def toText (l : Locale) : String :=
  String.ofList (joinWith ['_'] (([l.language, l.country, l.variant].filter (· ≠ "")).map String.toList))

/-- Reads a locale: a language of two to eight letters, an alphanumeric country that may be missing, and any rest as
the variant. -/
def ofText? (text : String) : Option Locale :=
  let s := (trim text.toList).map fun c => if c = '-' then '_' else c
  match splitOnChar '_' s with
  | [] => none
  | first :: rest =>
    let language := lower first
    let country := upper (rest.headD [])
    let variant := joinWith ['_'] (rest.drop 1)
    if language.isEmpty ∨ ¬language.all isLetter ∨ language.length < 2 ∨ 8 < language.length then none
    else if ¬country.isEmpty ∧ ¬country.all isAlphanumeric then none
    else some ⟨String.ofList language, String.ofList country, String.ofList variant⟩

end Locale

end CallContract
