import RenamePlan.Json.Kind
import RenamePlan.Json.Worth

/-!
Equality and order of JSON values.

Numbers are compared by what they are worth (`Json.worth?`).  Objects are the same if they have the
same fields in any order.  Numbers, texts and lists have an order, each among themselves; lists are
ordered by the first items that differ.  Other pairs of values cannot be ordered (`Json.order`), and
a list of entries is sorted only if any two of their keys can be (`sortOn`).
-/

namespace RenamePlan

namespace Json

mutual

/-- Whether two values are the same. -/
def same : Json → Json → Bool
  | null, null => true
  | int a, int b => a == b
  | text s, text t => s == t
  | list xs, list ys => sameItems xs ys
  | object fields, object others =>
    fields.length == others.length && sameFields fields others
  | x, y =>
    match x.worth?, y.worth? with
    | some a, some b => a.compare b == .eq
    | _, _ => false

/-- Whether two lists hold the same values in the same order. -/
def sameItems : List Json → List Json → Bool
  | [], [] => true
  | x :: xs, y :: ys => same x y && sameItems xs ys
  | _, _ => false

/-- Whether each field is among the others with the same value. -/
def sameFields : List (Text × Json) → List (Text × Json) → Bool
  | [], _ => true
  | (key, x) :: rest, others =>
    (match others.lookup key with
      | some y => same x y
      | none => false) && sameFields rest others

end

instance : BEq Json where
  beq := same

@[simp] theorem beq_int (a b : Int) : (int a == int b) = (a == b) := by
  simp [BEq.beq, same]

@[simp] theorem beq_text (s t : Text) : (text s == text t) = (s == t) := by
  simp [BEq.beq, same]

/-- Only a text is the same as a text. -/
theorem eq_text_of_beq {x : Json} {t : Text} (h : (x == text t) = true) : x = text t := by
  cases x with
  | text s =>
    rw [beq_text, beq_iff_eq] at h
    rw [h]
  | _ => simp [BEq.beq, same, worth?] at h

theorem text_beq_comm (t : Text) (x : Json) : (text t == x) = (x == text t) := by
  cases x with
  | text s => rw [beq_text, beq_text, Bool.beq_comm]
  | _ => simp [BEq.beq, same, worth?]

mutual

/-- How two values are ordered. -/
def order : Json → Json → Except ValueFault Ordering
  | int a, int b => .ok (compare a b)
  | text s, text t => .ok (compare s t)
  | list xs, list ys => orderItems xs ys
  | x, y =>
    match x.worth?, y.worth? with
    | some a, some b => .ok (a.compare b)
    | _, _ => .error .misfit

/-- How two lists are ordered: by the first items that differ, and the shorter one first if there
are none. -/
def orderItems : List Json → List Json → Except ValueFault Ordering
  | [], [] => .ok .eq
  | [], _ :: _ => .ok .lt
  | _ :: _, [] => .ok .gt
  | x :: xs, y :: ys => if same x y then orderItems xs ys else order x y

end

@[simp] theorem order_int (a b : Int) : order (int a) (int b) = .ok (compare a b) := by
  simp [order]

@[simp] theorem order_text (s t : Text) : order (text s) (text t) = .ok (compare s t) := by
  simp [order]

/-- Whether the first value does not come after the second. -/
def notAfter (x y : Json) : Bool :=
  match order x y with
  | .ok result => result.isLE
  | .error _ => true

/-! ## Sorting -/

/-- The kinds of values that are ordered among themselves and hold no others. -/
inductive ScalarKind where
  | number
  | text
deriving DecidableEq, Repr

/-- The kind of a value that holds no others and can be ordered. -/
def scalarKind? : Json → Option ScalarKind
  | text _ => some .text
  | value => value.worth?.map fun _ => .number

/-- The kinds of the values in a list. -/
def scalarKinds? : List Json → Option (List ScalarKind)
  | [] => some []
  | x :: rest => do
    let kind ← x.scalarKind?
    let kinds ← scalarKinds? rest
    some (kind :: kinds)

theorem order_isOk_of_scalarKind? {x y : Json} {kind : ScalarKind} (hx : x.scalarKind? = some kind)
    (hy : y.scalarKind? = some kind) : (order x y).isOk = true := by
  cases kind <;> cases x <;> cases y <;>
    simp_all [scalarKind?, worth?, order, Except.isOk, Except.toBool]

theorem orderItems_isOk_of_scalarKinds? {xs ys : List Json} {kinds : List ScalarKind}
    (hxs : scalarKinds? xs = some kinds) (hys : scalarKinds? ys = some kinds) :
    (orderItems xs ys).isOk = true := by
  induction xs generalizing ys kinds with
  | nil => cases ys <;> rfl
  | cons x xs ih =>
    cases ys with
    | nil => rfl
    | cons y ys =>
      simp only [scalarKinds?, Option.bind_eq_bind, Option.bind_eq_some_iff,
        Option.some.injEq] at hxs hys
      obtain ⟨kind, hx, rest, hrest, rfl⟩ := hxs
      obtain ⟨_, hy, _, hothers, same⟩ := hys
      obtain ⟨rfl, rfl⟩ := List.cons.inj same
      rw [orderItems]
      split
      · exact ih hrest hothers
      · exact order_isOk_of_scalarKind? hx hy

/-- Whether any two of the values can be ordered. -/
def pairsCanBeOrdered : List Json → Bool
  | [] => true
  | x :: rest => (rest.all fun y => (order x y).isOk) && pairsCanBeOrdered rest

/-- Whether the values are lists with the given kinds of values in them. -/
def areLists (kinds : List ScalarKind) (values : List Json) : Bool :=
  values.all fun
    | list items => scalarKinds? items == some kinds
    | _ => false

/-- Whether the values are lists with the same kinds of values in them, one by one. -/
def areAlike : List Json → Bool
  | list items :: rest =>
    match scalarKinds? items with
    | some kinds => areLists kinds rest
    | none => false
  | _ => false

/-- Whether any two of the values can be ordered.  Pairs are tried only if the values are not
alike. -/
def canBeOrdered (values : List Json) : Bool :=
  areAlike values || pairsCanBeOrdered values

theorem pairsCanBeOrdered_of_forall {values : List Json}
    (h : ∀ x ∈ values, ∀ y ∈ values, (order x y).isOk = true) :
    pairsCanBeOrdered values = true := by
  induction values with
  | nil => rfl
  | cons x rest ih =>
    have later : ∀ y ∈ rest, ∀ z ∈ rest, (order y z).isOk = true := fun y hy z hz =>
      h y (List.mem_cons_of_mem x hy) z (List.mem_cons_of_mem x hz)
    simp only [pairsCanBeOrdered, Bool.and_eq_true, List.all_eq_true]
    exact ⟨fun y hy => h x List.mem_cons_self y (List.mem_cons_of_mem x hy), ih later⟩

theorem exists_of_areLists {kinds : List ScalarKind} {values : List Json}
    (h : areLists kinds values = true) {x : Json} (hx : x ∈ values) :
    ∃ items, x = list items ∧ scalarKinds? items = some kinds := by
  have found := List.all_eq_true.1 h x hx
  cases x with
  | list items => exact ⟨items, rfl, by simpa using found⟩
  | _ => simp at found

theorem exists_of_areAlike {values : List Json} (h : areAlike values = true) :
    ∃ kinds, ∀ x ∈ values, ∃ items, x = list items ∧ scalarKinds? items = some kinds := by
  cases values with
  | nil => simp [areAlike] at h
  | cons first rest =>
    cases first with
    | list items =>
      rw [areAlike] at h
      cases hkinds : scalarKinds? items with
      | none => simp [hkinds] at h
      | some kinds =>
        rw [hkinds] at h
        refine ⟨kinds, fun x hx => ?_⟩
        obtain rfl | later := List.mem_cons.1 hx
        · exact ⟨items, rfl, hkinds⟩
        · exact exists_of_areLists h later
    | _ => simp [areAlike] at h

/-- Values that are alike can be ordered, so it is enough to look at that first. -/
theorem canBeOrdered_eq (values : List Json) : canBeOrdered values = pairsCanBeOrdered values := by
  cases h : areAlike values with
  | false => simp [canBeOrdered, h]
  | true =>
    obtain ⟨kinds, all⟩ := exists_of_areAlike h
    have ordered : pairsCanBeOrdered values = true := by
      refine pairsCanBeOrdered_of_forall fun x hx y hy => ?_
      obtain ⟨xs, rfl, hxs⟩ := all x hx
      obtain ⟨ys, rfl, hys⟩ := all y hy
      rw [order]
      exact orderItems_isOk_of_scalarKinds? hxs hys
    simp [canBeOrdered, h, ordered]

theorem canBeOrdered_of_forall {values : List Json}
    (h : ∀ x ∈ values, ∀ y ∈ values, (order x y).isOk = true) : canBeOrdered values = true := by
  rw [canBeOrdered_eq]
  exact pairsCanBeOrdered_of_forall h

/-- Pairs of whole numbers are ordered by the first, then by the second. -/
theorem order_pair (a b c d : Int) :
    order (list [int a, int b]) (list [int c, int d]) =
      .ok ((compare a c).then (compare b d)) := by
  have same_int (x y : Int) : same (int x) (int y) = (x == y) := beq_int x y
  by_cases first : a = c
  · by_cases second : b = d
    · simp [order, orderItems, same_int, first, second]
    · simp [order, orderItems, same_int, first, second]
  · have apart : compare a c ≠ .eq := by simpa using first
    simp only [order, orderItems, same_int, first, beq_iff_eq, if_false]
    cases h : compare a c <;> simp_all [Ordering.then]

end Json

/-- The entries by ascending keys; entries with the same key keep their order. -/
def sortOn {α : Type} (key : α → Json) (entries : List α) : Except ValueFault (List α) :=
  if Json.canBeOrdered (entries.map key) then
    .ok (entries.mergeSort fun a b => (key a).notAfter (key b))
  else .error .misfit

/-- The entries by descending keys; entries with the same key keep their order. -/
def sortDownOn {α : Type} (key : α → Json) (entries : List α) : Except ValueFault (List α) :=
  if Json.canBeOrdered (entries.map key) then
    .ok (entries.mergeSort fun a b => (key b).notAfter (key a))
  else .error .misfit

theorem sortDownOn_perm {α : Type} {key : α → Json} {entries sorted : List α}
    (h : sortDownOn key entries = .ok sorted) : sorted.Perm entries := by
  unfold sortDownOn at h
  split at h
  · cases h
    exact List.mergeSort_perm entries _
  · cases h

end RenamePlan
