import RenamePlan.Log.Record
import RenamePlan.Usage.Saved

/-!
The registry of all usages of one symbol.

There is one record for each module and routine, made by the first call that names the pair and
spelled as in that call.  A record lists a place once.  Records are aligned when the registry is
made of them, and a record is aligned again before a place is looked up in it and added.
-/

namespace RenamePlan

/-- All usages of a symbol, one record for each routine, oldest first. -/
structure UsageRegistry where
  sheets : List UsageSheet := []
deriving Repr

/-- The routine as a message names it. -/
def routineLabel (module procedure : Json) : Text :=
  module.shown ++ '.' :: (if procedure.isSet then procedure.shown else "<module>".toList)

namespace UsageRegistry

/-- The registry of the given sheets, in order. -/
def ofSheets (sheets : List UsageSheet) : UsageRegistry :=
  ⟨sheets.map UsageSheet.align⟩

/-- Reads a registry from saved records. -/
def ofJson (data : List Json) : Except UsageSheet.LoadFault UsageRegistry := do
  let sheets ← data.mapM UsageSheet.ofJson
  pure (ofSheets sheets)

/-- The number of records. -/
def size (registry : UsageRegistry) : Nat :=
  registry.sheets.length

/-- The place of the first record for the module and routine.  Records behind it are not looked
at. -/
def indexIn : List UsageSheet → Json → Json → Except ValueFault (Option Nat)
  | [], _, _ => .ok none
  | sheet :: rest, module, procedure => do
    if ← sheet.isFor module procedure then return some 0
    return (← indexIn rest module procedure).map (· + 1)

/-- The place of the first record for the module and routine; a routine that does not count as set
is the empty name. -/
def indexOf? (registry : UsageRegistry) (module procedure : Json) :
    Except ValueFault (Option Nat) :=
  indexIn registry.sheets module procedure.orEmpty

/-- The first record for the module and routine. -/
def get? (registry : UsageRegistry) (module procedure : Json) :
    Except ValueFault (Option UsageSheet) := do
  return (← registry.indexOf? module procedure).bind fun i => registry.sheets[i]?

/-- The line numbers of the records for a module, which have to be keys. -/
def linesOf : List UsageSheet → Json → Except ValueFault (List Json)
  | [], _ => .ok []
  | sheet :: rest, module => do
    if ← sameNames sheet.module module then
      if sheet.lines.all Json.isKey then return sheet.lines ++ (← linesOf rest module)
      throw .misfit
    linesOf rest module

/-- The lines on which the symbol is used in a module, each once, by record and then by age. -/
def linesIn (registry : UsageRegistry) (module : Json) : Except ValueFault (List Json) := do
  return (← linesOf registry.sheets module).eraseDups

/-- The note that a record has been made. -/
def recordCreated (module procedure : Json) : Record where
  level := .debug
  channel := .usages
  message := Text.string ("Reference record created for ".toList ++ routineLabel module procedure)

/-- The note that a usage is ignored because its place is listed. -/
def duplicateIgnored (module procedure : Json) (place : Place) : Record where
  level := .debug
  channel := .usages
  message := Text.string (
    "Duplicate usage ignored: ".toList ++ routineLabel module procedure ++ " line ".toList ++
    place.line.shown ++ " occurrence ".toList ++ place.occurrence.shown ++ " col ".toList ++
    place.column.shown)

/-- The place of the record for the module and routine, which is made if there is none. -/
def openRecord (registry : UsageRegistry) (module procedure : Json) :
    Except ValueFault (Logged (UsageRegistry × Nat)) := do
  match ← registry.indexOf? module procedure with
  | some i => return ⟨(registry, i), []⟩
  | none =>
    return ⟨(⟨registry.sheets ++ [{ module, procedure := procedure.orEmpty }]⟩, registry.size),
      [recordCreated module procedure]⟩

/-- Lists a place in the record at `i`, unless its line is not positive or it is listed already.
The record is aligned before the place is looked up.  The flag says whether it was listed
already. -/
def list (registry : UsageRegistry) (i : Nat) (place : Place) :
    Except ValueFault (UsageRegistry × Bool) := do
  if (← place.line.order (.int 0)) ≠ .gt then return (registry, false)
  let aligned := registry.sheets.modify i UsageSheet.align
  if (aligned[i]?).any (·.has place) then return (⟨aligned⟩, true)
  return (⟨aligned.modify i (·.append place)⟩, false)

/-- Records a usage.  The record for the routine is made if there is none, even for a place whose
line is not positive or no number, which is not listed.  A place that is listed already is not
listed again. -/
def record (registry : UsageRegistry) (module procedure : Json) (place : Place) :
    Outcome UsageRegistry ValueFault Unit :=
  match registry.openRecord module procedure with
  | .error fault => ⟨registry, .error fault, []⟩
  | .ok ⟨(opened, i), log⟩ =>
    match opened.list i place with
    | .error fault => ⟨opened, .error fault, log⟩
    | .ok (listed, known) =>
      ⟨listed, .ok (),
        log ++ if known then [duplicateIgnored module procedure place] else []⟩

end UsageRegistry

end RenamePlan
