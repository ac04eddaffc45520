import BacklogTrace.Text.Basic

/-!
Contract: a backlog item is a ticket of one of the known systems.

Each system has its own form of ticket names. `Source.admits` decides the form
by cutting the name where a reader would; `Item.shown` is how an item is
written in a marker and in a report.

Owns: `Source`, `Item`, the forms of ticket names.

Does not own: where items are found, which `Marker` says.
-/

namespace BacklogTrace

inductive Source where
  | jira
  | gitHub
deriving DecidableEq, Repr

def Source.tag : Source → Text
  | .jira => "Jira".toList
  | .gitHub => "GitHub".toList

/-- The system that a tag names, in any case of its ASCII letters. -/
def Source.ofTag? (tag : Text) : Option Source :=
  if Text.eqIgnoringAsciiCase tag Source.jira.tag then
    some .jira
  else if Text.eqIgnoringAsciiCase tag Source.gitHub.tag then
    some .gitHub
  else
    none

/-- A ticket number is written in decimal digits, at least one. -/
def isTicketNumber (text : Text) : Bool :=
  !text.isEmpty && text.all Char.isDigit

/-- A project begins with an ASCII letter; ASCII letters, digits and underscores
follow. -/
def isProjectKey : Text → Bool
  | [] => false
  | first :: rest =>
      first.isAlpha && rest.all fun character => character.isAlphanum || character == '_'

/-- An owner or a repository is a nonempty name of ASCII letters, digits,
hyphens, underscores and periods. -/
def isRepositoryName (text : Text) : Bool :=
  !text.isEmpty && text.all fun character =>
    character.isAlphanum || character == '-' || character == '_' || character == '.'

/-- The form `PROJECT-123`: what follows the last hyphen is the number. -/
def isJiraKey (id : Text) : Bool :=
  match Sequence.cutLast? (· == '-') id with
  | none => false
  | some (project, _, number) => isProjectKey project && isTicketNumber number

/-- The form `owner/repository#123`: what follows the first number sign is the
number, and the first slash before it ends the owner. -/
def isGitHubIssue (id : Text) : Bool :=
  match Sequence.cutFirst? (· == '#') id with
  | none => false
  | some (place, _, number) =>
      match Sequence.cutFirst? (· == '/') place with
      | none => false
      | some (owner, _, repository) =>
          isRepositoryName owner && isRepositoryName repository && isTicketNumber number

/-- Whether a ticket name has the form that a system gives its tickets. -/
def Source.admits : Source → Text → Bool
  | .jira => isJiraKey
  | .gitHub => isGitHubIssue

structure Item where
  id : Text
  source : Source
deriving DecidableEq, Repr

def Item.isWellFormed (item : Item) : Bool :=
  item.source.admits item.id

/-- The written form of an item: its tag, a colon and its name. -/
def Item.shown (item : Item) : Text :=
  item.source.tag ++ ':' :: item.id

def Item.shownList (items : List Item) : Text :=
  [',', ' '].intercalate (items.map Item.shown)

end BacklogTrace
