import CallContract.Markup.Token

/-!
# Finding — the first markup in a text

Elements come first: only a text without any element is searched for comments and declarations.
-/

namespace CallContract.Markup

def Token.words : Token → String
  | .tag name => "<" ++ String.ofList name ++ ">"
  | .comment => "comment"
  | .declaration => "declaration"
  | .doctype => "doctype"
  | .instruction => "processinginstruction"

def Token.isTag : Token → Bool
  | .tag _ => true
  | _ => false

/-- The first element of a text, or else its first other markup. -/
def find? (text : String) : Except Refusal (Option Token) :=
  if text.toList.contains '<' then
    (tokens text.toList).map fun ts => (ts.find? Token.isTag).orElse fun _ => ts.head?
  else .ok none

-- What finds the first markup in a text.
abbrev Finder := String → Except Refusal (Option Token)

def message (field : String) (found : Token) : String :=
  "In field [" ++ field ++ "] markup is not allowed (found " ++ found.words ++ ")"

/-- The messages about a field: one when its text holds markup. -/
def messages (find : Finder) (field text : String) : Except Refusal (List String) :=
  (find text).map fun found? => found?.toList.map (message field)

end CallContract.Markup
