import RenamePlan.Proofs.Usage.History
import RenamePlan.Symbol.Table

/-!
# The first declaration of a symbol stays

A symbol table is asked to add symbols, to give or make them, and to record their usages.  After any
calls it holds the symbols that calls have declared, less those whose key was declared before
(`keepsFirstDeclarations_after`).

* **Declarations** — a declaration of texts makes a symbol iff its kind is one (`symbol?`).
* **Two ways in** — looking the symbol up first comes to the same as adding it, since what can be
  found can be made (`getOrDeclare_eq_declare`).
* **Calls** — a call adds its symbol if the key is new, and touches nothing else but usages
  (`bare_perform`).
-/

namespace RenamePlan

/-! ## Declarations -/

/-- A declaration whose values are of the right kinds. -/
structure PlainDeclaration where
  name : Text
  /-- The word for the kind, or one that is none. -/
  kind : Text
  module : Text
  procedure : Option Text := none
  conventionalName : Option Text := none
  lineNumber : Int := 0

namespace PlainDeclaration

/-- The declaration as it is given. -/
def declaration (d : PlainDeclaration) : Declaration where
  name := .text d.name
  kind := .text d.kind
  module := .text d.module
  procedure := routineName d.procedure
  conventionalName := d.conventionalName.elim .null .text
  lineNumber := .int d.lineNumber

/-- The key of what is declared: the folds of the names, no routine having the empty name, and the
kind.  What is no kind has no key. -/
def key? (d : PlainDeclaration) : Option SymbolKey :=
  (SymbolKind.ofText? d.kind).map (.ofNames d.module (d.procedure.getD []) d.name)

/-- The symbol that is declared: the names as they are spelled, and the name itself for a
conventional name that is not given. -/
def symbol? (d : PlainDeclaration) : Option Symbol :=
  (SymbolKind.ofText? d.kind).map fun kind => {
    name := d.name
    kind
    module := d.module
    procedure := routineName d.procedure
    conventionalName := .text (d.conventionalName.getD d.name)
    lineNumber := .int d.lineNumber }

theorem map_key_symbol? (d : PlainDeclaration) : d.symbol?.map Symbol.key = d.key? := by
  have hroutine (kind : SymbolKind) (name module : Text) (conventionalName lineNumber : Json) :
      Symbol.routine
          ⟨name, kind, module, routineName d.procedure, conventionalName, lineNumber, {}⟩ =
        d.procedure.getD [] := by
    cases d.procedure with
    | none => rfl
    | some procedure => rfl
  rw [symbol?, key?, Option.map_map]
  congr 1
  funext kind
  show SymbolKey.ofNames _ (Symbol.routine _) _ _ = _
  rw [hroutine]

theorem symbol?_eq_none_iff (d : PlainDeclaration) :
    d.symbol? = none ↔ ∀ kind : SymbolKind, kind.word ≠ d.kind := by
  have hall (kind : SymbolKind) : kind ∈ SymbolKind.all := by
    cases kind <;> decide
  rw [symbol?, Option.map_eq_none_iff, SymbolKind.ofText?, List.find?_eq_none]
  constructor
  · intro h kind
    simpa using h kind (hall kind)
  · intro h kind _
    simpa using h kind

theorem names_declaration (d : PlainDeclaration) :
    d.declaration.names = .ok (d.module, d.procedure.getD [], d.name) := by
  rw [Declaration.names]
  show (do
    let module ← (Json.text d.module).name
    let procedure ← (routineName d.procedure).orEmpty.name
    let name ← (Json.text d.name).name
    pure (module, procedure, name)) = _
  rw [orEmpty_routineName]
  rfl

/-- A declaration makes its symbol, or is refused for its kind. -/
theorem toSymbol_declaration (d : PlainDeclaration) :
    d.declaration.toSymbol = d.symbol?.elim (.error (.unknownKind ⟨d.kind⟩)) .ok := by
  have hkind : d.declaration.symbolKind =
      (SymbolKind.ofText? d.kind).elim (.error (.unknownKind ⟨d.kind⟩)) .ok := by
    rw [Declaration.symbolKind]
    simp only [declaration, Json.isKey, SymbolKind.ofJson?, if_true]
    cases SymbolKind.ofText? d.kind with
    | none => rfl
    | some kind => rfl
  rw [Declaration.toSymbol, hkind, names_declaration, symbol?]
  cases SymbolKind.ofText? d.kind with
  | none => rfl
  | some kind =>
    obtain ⟨name, word, module, procedure, conventionalName, lineNumber⟩ := d
    cases conventionalName with
    | none => rfl
    | some conventionalName => rfl

/-! ## Two ways into the table -/

variable (table : SymbolTable)

theorem find?_declaration (d : PlainDeclaration) :
    table.find? d.declaration = .ok (d.key?.bind table.indexOf?) := by
  rw [SymbolTable.find?, names_declaration, key?, Option.bind_map]
  rfl

theorem declare_declaration (d : PlainDeclaration) :
    table.declare d.declaration =
      d.symbol?.elim (.error (.unknownKind ⟨d.kind⟩)) (.ok ∘ table.add) := by
  rw [SymbolTable.declare, toSymbol_declaration]
  cases d.symbol? with
  | none => rfl
  | some s => rfl

/-- Looking a symbol up before making it comes to the same as adding it. -/
theorem getOrDeclare_eq_declare (d : PlainDeclaration) :
    table.getOrDeclare d.declaration = table.declare d.declaration := by
  rw [SymbolTable.getOrDeclare, find?_declaration, ← map_key_symbol?]
  cases hsymbol : d.symbol? with
  | none => rfl
  | some s =>
    rw [Option.map_some, Option.bind_some]
    cases hindex : table.indexOf? s.key with
    | none => rfl
    | some i =>
      have hadd : table.add s = ⟨(table, i), []⟩ := by
        rw [SymbolTable.add]
        simp only [hindex]
      rw [declare_declaration, hsymbol]
      show _ = Except.ok (table.add s)
      rw [hadd]

theorem declare_eq_error_iff (d : PlainDeclaration) {fault : DeclarationFault} :
    table.declare d.declaration = .error fault ↔
      fault = .unknownKind ⟨d.kind⟩ ∧ ∀ kind : SymbolKind, kind.word ≠ d.kind := by
  rw [← d.symbol?_eq_none_iff, d.declare_declaration table]
  cases d.symbol? with
  | none =>
    constructor
    · intro hfault
      exact ⟨(Except.error.inj hfault).symm, rfl⟩
    · rintro ⟨rfl, -⟩
      rfl
  | some s =>
    constructor
    · intro hfault
      cases hfault
    · rintro ⟨-, hnone⟩
      cases hnone

end PlainDeclaration

/-! ## Calls -/

/-- The symbol without its usages: what was declared. -/
def Symbol.bare (s : Symbol) : Symbol :=
  { s with usages := {} }

@[simp] theorem Symbol.key_bare (s : Symbol) : s.bare.key = s.key := rfl

theorem PlainDeclaration.bare_of_symbol? {d : PlainDeclaration} {s : Symbol}
    (h : d.symbol? = some s) : s.bare = s := by
  rw [symbol?] at h
  obtain ⟨kind, -, rfl⟩ := Option.map_eq_some_iff.1 h
  rfl

/-- A call to a symbol table. -/
inductive TableCall where
  /-- Makes a symbol and adds it. -/
  | add (d : PlainDeclaration)
  /-- Asks for a symbol, which is made on first use. -/
  | getOrCreate (d : PlainDeclaration)
  /-- Records a usage of the symbol at place `i`. -/
  | record (i : Nat) (c : UsageCall)

namespace TableCall

/-- The table after the call.  A declaration that is refused leaves it as it is. -/
def perform (table : SymbolTable) : TableCall → SymbolTable
  | add d => ((table.declare d.declaration).map (·.value.1)).toOption.getD table
  | getOrCreate d => ((table.getOrDeclare d.declaration).map (·.value.1)).toOption.getD table
  | record i c =>
    (table.recordUsage i (.text c.module) (routineName c.procedure) c.place).state

/-- What is refused one way is refused the other way, and the table stays as it is. -/
theorem perform_of_error {table : SymbolTable} {d : PlainDeclaration} {fault : DeclarationFault}
    (h : table.declare d.declaration = .error fault) :
    (add d).perform table = table ∧ (getOrCreate d).perform table = table := by
  rw [perform, perform, d.getOrDeclare_eq_declare table, h]
  exact ⟨rfl, rfl⟩

/-- The symbol that the call declares, if it succeeds. -/
def declared? : TableCall → Option Symbol
  | add d => d.symbol?
  | getOrCreate d => d.symbol?
  | record _ _ => none

end TableCall

namespace SymbolTable

/-- The table after calls. -/
def after (table : SymbolTable) (calls : List TableCall) : SymbolTable :=
  calls.foldl TableCall.perform table

theorem bare_add (table : SymbolTable) (s : Symbol) :
    (table.add s).value.1.symbols.map Symbol.bare =
      addNew Symbol.key (table.symbols.map Symbol.bare) s.bare := by
  unfold add addNew
  cases hindex : table.indexOf? s.key with
  | none =>
    have hnew : ((table.symbols.map Symbol.bare).all (s.bare.key ≠ ·.key)) = true := by
      apply List.all_eq_true.2
      intro t ht
      obtain ⟨t, hmem, rfl⟩ := List.mem_map.1 ht
      apply decide_eq_true
      intro heq
      have hother := List.findIdx?_eq_none_iff.1 hindex t hmem
      rw [Symbol.key_bare, Symbol.key_bare] at heq
      simp [heq] at hother
    rw [if_pos hnew]
    show (table.symbols ++ [s]).map Symbol.bare = _
    rw [List.map_append, List.map_singleton]
  | some i =>
    obtain ⟨hi, hfound, -⟩ := List.findIdx?_eq_some_iff_getElem.1 hindex
    rw [beq_iff_eq] at hfound
    rw [if_neg]
    intro hall
    have hother := List.all_eq_true.1 hall _ (List.mem_map_of_mem (List.getElem_mem hi))
    simp [hfound] at hother

/-- A usage does not touch what was declared. -/
theorem bare_recordUsage (table : SymbolTable) (i : Nat) (module procedure : Json)
    (place : Place) :
    (table.recordUsage i module procedure place).state.symbols.map Symbol.bare =
      table.symbols.map Symbol.bare := by
  unfold recordUsage
  cases hget : table.symbols[i]? with
  | none => rfl
  | some s =>
    obtain ⟨hi, rfl⟩ := List.getElem?_eq_some_iff.1 hget
    show (table.symbols.set i _).map Symbol.bare = _
    rw [List.map_set]
    apply List.ext_getElem
    · simp
    · intro j hj hj'
      rw [List.getElem_set]
      split
      · rename_i hij
        subst hij
        rw [List.getElem_map]
        rfl
      · rfl

/-- One call: what it declares is added if the key is new. -/
theorem bare_perform (table : SymbolTable) (call : TableCall) :
    (call.perform table).symbols.map Symbol.bare =
      call.declared?.toList.foldl (addNew Symbol.key) (table.symbols.map Symbol.bare) := by
  have hadd (d : PlainDeclaration) :
      (((table.declare d.declaration).map (·.value.1)).toOption.getD table).symbols.map
          Symbol.bare =
        d.symbol?.toList.foldl (addNew Symbol.key) (table.symbols.map Symbol.bare) := by
    rw [d.declare_declaration]
    cases hsymbol : d.symbol? with
    | none => rfl
    | some s =>
      show (table.add s).value.1.symbols.map Symbol.bare = addNew Symbol.key _ s
      rw [bare_add, PlainDeclaration.bare_of_symbol? hsymbol]
  cases call with
  | add d => exact hadd d
  | getOrCreate d =>
    rw [TableCall.perform, d.getOrDeclare_eq_declare]
    exact hadd d
  | record i c => exact bare_recordUsage ..

/-- A run: the first declaration of each key stays. -/
theorem bare_after (table : SymbolTable) (past : List Symbol)
    (h : table.symbols.map Symbol.bare = firstsOn Symbol.key past) (calls : List TableCall) :
    (table.after calls).symbols.map Symbol.bare =
      firstsOn Symbol.key (past ++ calls.filterMap TableCall.declared?) := by
  induction calls generalizing table past with
  | nil =>
    rw [List.filterMap_nil, List.append_nil]
    exact h
  | cons call rest ih =>
    have hcall : (call :: rest).filterMap TableCall.declared? =
        call.declared?.toList ++ rest.filterMap TableCall.declared? := by
      rw [List.filterMap_cons]
      cases call.declared? with
      | none => rfl
      | some s => rfl
    rw [hcall, ← List.append_assoc]
    apply ih (call.perform table)
    rw [bare_perform, h, foldl_addNew_firstsOn]

/-! ## The law of the table -/

/-- The symbol that the look-up by key finds, as it was declared. -/
theorem bare_getElem?_indexOf? {table : SymbolTable} {declared : List Symbol}
    (h : table.symbols.map Symbol.bare = firstsOn Symbol.key declared) (key : SymbolKey) :
    ((table.indexOf? key).bind (table.symbols[·]?)).map Symbol.bare =
      declared.find? (·.key = key) := by
  have hkey : (fun s : Symbol => s.key == key) = (fun s => decide (s.key = key)) ∘ Symbol.bare := by
    funext s
    rfl
  rw [indexOf?, ← List.find?_eq_bind_findIdx?_getElem?, hkey, ← List.find?_map, h, find?_firstsOn]

theorem bare_getElem?_key? {table : SymbolTable} {declared : List Symbol}
    (h : table.symbols.map Symbol.bare = firstsOn Symbol.key declared) (d : PlainDeclaration) :
    ((d.key?.bind table.indexOf?).bind (table.symbols[·]?)).map Symbol.bare =
      declared.find? (some ·.key = d.key?) := by
  cases d.key? with
  | none =>
    -- no symbol has the key of what is no kind
    symm
    apply List.find?_eq_none.2
    intro s _
    simp
  | some key =>
    rw [Option.bind_some, bare_getElem?_indexOf? h]
    simp only [Option.some.injEq]

/-- Adding a symbol gives the place of the first one with its key. -/
theorem bare_getElem?_add {table : SymbolTable} {declared : List Symbol}
    (h : table.symbols.map Symbol.bare = firstsOn Symbol.key declared) (s : Symbol) :
    ((table.add s).value.1.symbols[(table.add s).value.2]?).map Symbol.bare =
      (declared ++ [s.bare]).find? (·.key = s.key) := by
  have hfound := bare_getElem?_indexOf? h s.key
  rw [List.find?_append]
  unfold add
  cases hindex : table.indexOf? s.key with
  | none =>
    rw [hindex, Option.bind_none, Option.map_none] at hfound
    rw [← hfound]
    show ((table.symbols ++ [s])[table.symbols.length]?).map Symbol.bare = _
    rw [List.getElem?_concat_length, Option.map_some]
    simp
  | some i =>
    rw [hindex, Option.bind_some] at hfound
    have hi := (List.findIdx?_eq_some_iff_getElem.1 hindex).1
    show (table.symbols[i]?).map Symbol.bare = _
    rw [← hfound, List.getElem?_eq_getElem hi]
    rfl

/-- What a table owes to the declarations that were made in it. -/
structure KeepsFirstDeclarations (declared : List Symbol) (table : SymbolTable) : Prop where
  /-- It holds the first symbol with each key, in the order of the declarations. -/
  symbols_eq : table.symbols.map Symbol.bare = firstsOn Symbol.key declared
  /-- Looking up the names and the kind in any spelling gives the symbol with their key, and nothing
  if none was declared. -/
  find?_eq : ∀ d : PlainDeclaration, ∃ found, table.find? d.declaration = .ok found ∧
    (found.bind (table.symbols[·]?)).map Symbol.bare = declared.find? (some ·.key = d.key?)
  /-- Both ways into the table give the same answer, also where they fail. -/
  getOrDeclare_eq : ∀ d : PlainDeclaration,
    table.getOrDeclare d.declaration = table.declare d.declaration
  /-- A declaration is refused iff its kind is none, and then the table stays as it is. -/
  refused_iff : ∀ d : PlainDeclaration, ((∃ fault, table.declare d.declaration = .error fault) ↔
      ∀ kind : SymbolKind, kind.word ≠ d.kind) ∧
    ∀ fault, table.declare d.declaration = .error fault → fault = .unknownKind ⟨d.kind⟩ ∧
      (TableCall.add d).perform table = table ∧ (TableCall.getOrCreate d).perform table = table
  /-- Otherwise the answer is the place of the symbol that was first declared with the key. -/
  declared_eq : ∀ d s, d.symbol? = some s → ∃ added, table.declare d.declaration = .ok added ∧
    added.value.1 = (TableCall.add d).perform table ∧
    (added.value.1.symbols[added.value.2]?).map Symbol.bare =
      (declared ++ [s]).find? (·.key = s.key)

/-- **The first declaration stays.**  After any calls on an empty table, it holds one symbol for
each key of the declarations that succeeded, in the order of and as in the first of them; symbols
are found by their keys; and to add a symbol or to ask for it comes to the same. -/
theorem keepsFirstDeclarations_after (calls : List TableCall) :
    KeepsFirstDeclarations (calls.filterMap TableCall.declared?) (after {} calls) := by
  have hsymbols := bare_after {} [] rfl calls
  rw [List.nil_append] at hsymbols
  generalize after {} calls = table at hsymbols
  generalize calls.filterMap TableCall.declared? = declared at hsymbols
  refine ⟨hsymbols, ?_, fun d => d.getOrDeclare_eq_declare table, ?_, ?_⟩
  · intro d
    exact ⟨_, d.find?_declaration table, bare_getElem?_key? hsymbols d⟩
  · intro d
    refine ⟨⟨?_, fun hkind => ⟨_, (d.declare_eq_error_iff table).2 ⟨rfl, hkind⟩⟩⟩, ?_⟩
    · rintro ⟨fault, hfault⟩
      exact ((d.declare_eq_error_iff table).1 hfault).2
    · intro fault hfault
      exact ⟨((d.declare_eq_error_iff table).1 hfault).1, TableCall.perform_of_error hfault⟩
  · intro d s hsymbol
    have hdeclare : table.declare d.declaration = .ok (table.add s) := by
      rw [d.declare_declaration table, hsymbol]
      rfl
    refine ⟨table.add s, hdeclare, ?_, ?_⟩
    · rw [TableCall.perform, hdeclare]
      rfl
    · rw [bare_getElem?_add hsymbols, PlainDeclaration.bare_of_symbol? hsymbol]

end SymbolTable

end RenamePlan
