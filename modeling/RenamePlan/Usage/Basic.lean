import RenamePlan.Json.Compare
import RenamePlan.Text.Fold

/-!
Usages of a symbol, one record for each routine that uses it.

A record is a `UsageSheet`.  It keeps the line numbers, the occurrence indexes and the start columns
of the usages in three lists side by side: the usage at a place of the lists is a `Place`.  The
lists of a record from elsewhere may differ in length, and `UsageSheet.align` goes by the line
numbers.

What a record holds is what its maker put there.  Its names have to be texts once it is compared
with another, and its line numbers have to be numbers once they are recorded.
-/

namespace RenamePlan

/-- What stands for an occurrence index or a start column that is not known. -/
def unspecified : Int := -1

/-- One place where a symbol is used. -/
structure Place where
  /-- Line number, counted from one. -/
  line : Json
  /-- Rank among the matches of the same name on the line, counted from one. -/
  occurrence : Json := .int unspecified
  /-- Start column, counted from zero. -/
  column : Json := .int unspecified
deriving BEq, Repr

/-- The usages of a symbol in one routine of one module, oldest first. -/
structure UsageSheet where
  module : Json
  /-- The routine.  What does not count as set stands for code outside every routine. -/
  procedure : Json := .text []
  /-- Line numbers, counted from one. -/
  lines : List Json := []
  /-- Ranks among the matches of the same name on the line, counted from one. -/
  occurrences : List Json := []
  /-- Start columns, counted from zero. -/
  columns : List Json := []
deriving Repr

/-- Whether two values are the same name, up to case folding. -/
def sameNames (a b : Json) : Except ValueFault Bool := do
  pure (sameName (← a.name) (← b.name))

@[simp] theorem sameNames_text (s t : Text) :
    sameNames (.text s) (.text t) = .ok (sameName s t) := rfl

/-- Whether a record for `module` and `procedure` is the one for the given pair, names being
compared up to case folding.  The routines are looked at only if the modules are the same. -/
def sameRoutine (module procedure otherModule otherProcedure : Json) : Except ValueFault Bool := do
  if ← sameNames module otherModule then sameNames procedure.orEmpty otherProcedure
  else pure false

/-- For texts both names are compared. -/
theorem sameRoutine_text (module procedure otherModule otherProcedure : Text) :
    sameRoutine (.text module) (.text procedure) (.text otherModule) (.text otherProcedure) =
      .ok (sameName module otherModule && sameName procedure otherProcedure) := by
  unfold sameRoutine
  cases h : sameName module otherModule <;> simp [h, bind, Except.bind, pure, Except.pure]

/-- What records are ordered by: the module, then the routine, up to case folding. -/
def routineRank (module procedure : Json) : Except ValueFault Json := do
  let module ← module.name
  let procedure ← procedure.orEmpty.name
  pure (.list [.text (fold module), .text (fold procedure)])

/-- The entries by module, then by routine, up to case folding; those of one routine keep their
order. -/
def sortByRoutine {α : Type} (module procedure : α → Json) (entries : List α) :
    Except ValueFault (List α) := do
  let ranked ← entries.mapM fun entry => do
    return (← routineRank (module entry) (procedure entry), entry)
  return (← sortOn Prod.fst ranked).map Prod.snd

/-- The first `length` entries, filled up with `blank`. -/
def fitTo {α : Type} (blank : α) (length : Nat) (entries : List α) : List α :=
  entries.take length ++ List.replicate (length - entries.length) blank

@[simp] theorem length_fitTo {α : Type} (blank : α) (length : Nat) (entries : List α) :
    (fitTo blank length entries).length = length := by
  simp [fitTo]
  omega

theorem fitTo_of_length_eq {α : Type} {blank : α} {length : Nat} {entries : List α}
    (h : entries.length = length) : fitTo blank length entries = entries := by
  subst h
  simp [fitTo]

/-- The places whose parts stand side by side in the three lists, up to the end of the shortest. -/
def zipPlaces (lines occurrences columns : List Json) : List Place :=
  (lines.zip (occurrences.zip columns)).map fun (line, occurrence, column) =>
    { line, occurrence, column }

namespace UsageSheet

/-- Whether this is the record for the given module and routine. -/
def isFor (sheet : UsageSheet) (module procedure : Json) : Except ValueFault Bool :=
  sameRoutine sheet.module sheet.procedure module procedure

/-- The places that the sheet tells in full. -/
def places (sheet : UsageSheet) : List Place :=
  zipPlaces sheet.lines sheet.occurrences sheet.columns

/-- The sheet with one occurrence index and one start column for each line number: what is missing
is not known, and what is left over is dropped. -/
def align (sheet : UsageSheet) : UsageSheet :=
  { sheet with
    occurrences := fitTo (.int unspecified) sheet.lines.length sheet.occurrences
    columns := fitTo (.int unspecified) sheet.lines.length sheet.columns }

/-- Whether the sheet tells of a usage at the place. -/
def has (sheet : UsageSheet) (place : Place) : Bool :=
  sheet.places.contains place

/-- The sheet with one more usage: each of the lists grows by one. -/
def append (sheet : UsageSheet) (place : Place) : UsageSheet :=
  { sheet with
    lines := sheet.lines ++ [place.line]
    occurrences := sheet.occurrences ++ [place.occurrence]
    columns := sheet.columns ++ [place.column] }

/-- The sheets by module, then by routine. -/
def sorted (sheets : List UsageSheet) : Except ValueFault (List UsageSheet) :=
  sortByRoutine module procedure sheets

end UsageSheet

end RenamePlan
