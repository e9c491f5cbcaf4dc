import Almanac.Toml.Document
import Mathlib.Data.List.Nodup

/-! Each key once.

A document that gave a key two meanings would be no document: every step that puts its tables
together has a result only when the key is new or leads further in. So no table of a document has a
key twice, at whatever depth (`unambiguous_of_parse?`), and what a table gives for a key is told by
its entries in any order (`lookup_eq_some_iff_mem`). -/
namespace Almanac.Toml

/-- Whether a value holds no other. -/
def Value.isLeaf : Value → Bool
  | .array _ | .table _ => false
  | _ => true

/-- A value none of whose tables has a key twice. -/
inductive Value.Unambiguous : Value → Prop
  | leaf {value} : value.isLeaf = true → Unambiguous value
  | array {items} : (∀ item ∈ items, Unambiguous item) → Unambiguous (.array items)
  | table {entries} : (entries.map Prod.fst).Nodup → (∀ entry ∈ entries, Unambiguous entry.2) →
      Unambiguous (.table entries)

/-- The same of what a key stands for so far. -/
inductive Node.Unambiguous : Node → Prop
  | value {value} : value.Unambiguous → Unambiguous (.value value)
  | table {origin entries} : (entries.map Prod.fst).Nodup →
      (∀ entry ∈ entries, Unambiguous entry.2) → Unambiguous (.table origin entries)
  | rows {tables} : (∀ table ∈ tables, (table.map Prod.fst).Nodup) →
      (∀ table ∈ tables, ∀ entry ∈ table, Unambiguous entry.2) → Unambiguous (.rows tables)

/-- The same of a table under construction. -/
structure Unambiguous (nodes : Nodes) : Prop where
  nodup : (nodes.map Prod.fst).Nodup
  node : ∀ entry ∈ nodes, entry.2.Unambiguous

/-! ### Tables under construction -/

theorem unambiguous_nil : Unambiguous [] :=
  ⟨List.nodup_nil, List.forall_mem_nil _⟩

theorem unambiguous_table_iff {origin : Origin} {nodes : Nodes} :
    (Node.table origin nodes).Unambiguous ↔ Unambiguous nodes := by
  constructor
  · intro h
    cases h with
    | table nodup node => exact ⟨nodup, node⟩
  · intro h
    exact .table h.nodup h.node

theorem unambiguous_rows_iff {tables : List Nodes} :
    (Node.rows tables).Unambiguous ↔ ∀ nodes ∈ tables, Unambiguous nodes := by
  constructor
  · intro h
    cases h with
    | rows nodup node => exact fun nodes member => ⟨nodup nodes member, node nodes member⟩
  · intro h
    exact .rows (fun nodes member => (h nodes member).nodup) fun nodes member => (h nodes member).node

theorem mem_of_lookup {α : Type} {entries : List (String × α)} {key : String} {a : α}
    (found : entries.lookup key = some a) : (key, a) ∈ entries := by
  obtain ⟨before, after, rfl, -⟩ := List.lookup_eq_some_iff.1 found
  exact List.mem_append_right _ List.mem_cons_self

theorem not_mem_keys {α : Type} {entries : List (String × α)} {key : String}
    (absent : entries.lookup key = none) : key ∉ entries.map Prod.fst := by
  intro member
  obtain ⟨entry, listed, rfl⟩ := List.mem_map.1 member
  exact absurd rfl (bne_iff_ne.1 (List.lookup_eq_none_iff.1 absent entry listed))

namespace Unambiguous
variable {nodes nodes' : Nodes} {key : String} {node : Node}

theorem of_lookup (h : Unambiguous nodes) (found : nodes.lookup key = some node) :
    node.Unambiguous :=
  h.node _ (mem_of_lookup found)

/-- A key that is new may be added. -/
theorem add (h : Unambiguous nodes) (absent : nodes.lookup key = none)
    (sound : node.Unambiguous) : Unambiguous (nodes ++ [(key, node)]) := by
  refine ⟨?_, List.forall_mem_append.2 ⟨h.node, List.forall_mem_singleton.2 sound⟩⟩
  rw [List.map_append, List.map_singleton, List.nodup_append_comm]
  exact List.nodup_cons.2 ⟨not_mem_keys absent, h.nodup⟩

/-- A key may take another meaning for the one that it has. -/
theorem replace (h : Unambiguous nodes) (sound : node.Unambiguous) :
    Unambiguous (Toml.replace key node nodes) := by
  constructor
  · have keys : (Toml.replace key node nodes).map Prod.fst = nodes.map Prod.fst := by
      rw [Toml.replace, List.map_map]
      refine List.map_congr_left fun entry _ => ?_
      dsimp only [Function.comp_apply]
      split
      · rfl
      · rfl
    rw [keys]
    exact h.nodup
  · rw [Toml.replace]
    refine List.forall_mem_map.2 fun entry member => ?_
    dsimp only
    split
    · exact sound
    · exact h.node entry member

end Unambiguous

/-! ### What a statement does -/

theorem changeLast_forall {α : Type} {P : α → Prop} {change : α → Option α}
    (keeps : ∀ x y, P x → change x = some y → P y) {xs ys : List α}
    (changed : changeLast change xs = some ys) (h : ∀ x ∈ xs, P x) : ∀ y ∈ ys, P y := by
  fun_induction changeLast change xs generalizing ys with
  | case1 => cases changed
  | case2 x =>
    obtain ⟨y, result, rfl⟩ := Option.map_eq_some_iff.1 changed
    exact List.forall_mem_singleton.2 (keeps x y (h x (List.mem_singleton_self x)) result)
  | case3 x xs _ ih =>
    obtain ⟨zs, result, rfl⟩ := Option.map_eq_some_iff.1 changed
    obtain ⟨first, others⟩ := List.forall_mem_cons.1 h
    exact List.forall_mem_cons.2 ⟨first, ih result others⟩

theorem unambiguous_within {change : Nodes → Option Nodes}
    (keeps : ∀ nodes nodes', Unambiguous nodes → change nodes = some nodes' → Unambiguous nodes')
    {path : List String} {nodes nodes' : Nodes} (h : Unambiguous nodes)
    (changed : within change path nodes = some nodes') : Unambiguous nodes' := by
  induction path generalizing nodes nodes' with
  | nil => exact keeps nodes nodes' h changed
  | cons key path ih =>
    rw [within] at changed
    split at changed
    · next absent =>
      obtain ⟨inner, result, rfl⟩ := Option.map_eq_some_iff.1 changed
      exact h.add absent (unambiguous_table_iff.2 (ih unambiguous_nil result))
    · next origin inner found =>
      obtain ⟨inner', result, rfl⟩ := Option.map_eq_some_iff.1 changed
      have inside := unambiguous_table_iff.1 (h.of_lookup found)
      exact h.replace (unambiguous_table_iff.2 (ih inside result))
    · next tables found =>
      obtain ⟨tables', result, rfl⟩ := Option.map_eq_some_iff.1 changed
      have inside := unambiguous_rows_iff.1 (h.of_lookup found)
      exact h.replace (unambiguous_rows_iff.2 (changeLast_forall (fun _ _ => ih) result inside))
    · cases changed

theorem unambiguous_assign {value : Value} (sound : value.Unambiguous) {path : List String}
    {nodes nodes' : Nodes} (h : Unambiguous nodes)
    (assigned : assign nodes path value = some nodes') : Unambiguous nodes' := by
  induction path generalizing nodes nodes' with
  | nil => cases assigned
  | cons key path ih =>
    cases path with
    | nil =>
      rw [assign] at assigned
      split at assigned
      · next absent =>
        obtain rfl := Option.some.inj assigned
        exact h.add absent (.value sound)
      · cases assigned
    | cons next path =>
      rw [assign] at assigned
      split at assigned
      · next absent =>
        obtain ⟨inner, result, rfl⟩ := Option.map_eq_some_iff.1 assigned
        exact h.add absent (unambiguous_table_iff.2 (ih unambiguous_nil result))
      · next origin inner found =>
        split at assigned
        · obtain ⟨inner', result, rfl⟩ := Option.map_eq_some_iff.1 assigned
          have inside := unambiguous_table_iff.1 (h.of_lookup found)
          exact h.replace (unambiguous_table_iff.2 (ih inside result))
        · cases assigned
      · next tables found =>
        split at assigned
        · cases assigned
        · obtain ⟨tables', result, rfl⟩ := Option.map_eq_some_iff.1 assigned
          have inside := unambiguous_rows_iff.1 (h.of_lookup found)
          exact h.replace (unambiguous_rows_iff.2 (changeLast_forall (fun _ _ => ih) result inside))
      · cases assigned

theorem unambiguous_openHere {key : String} {nodes nodes' : Nodes} (h : Unambiguous nodes)
    (opened : openHere key nodes = some nodes') : Unambiguous nodes' := by
  unfold openHere at opened
  split at opened
  · next absent =>
    obtain rfl := Option.some.inj opened
    exact h.add absent (unambiguous_table_iff.2 unambiguous_nil)
  · next inner found =>
    obtain rfl := Option.some.inj opened
    exact h.replace (unambiguous_table_iff.2 (unambiguous_table_iff.1 (h.of_lookup found)))
  · cases opened

theorem unambiguous_openRowHere {key : String} {nodes nodes' : Nodes} (h : Unambiguous nodes)
    (opened : openRowHere key nodes = some nodes') : Unambiguous nodes' := by
  unfold openRowHere at opened
  split at opened
  · next absent =>
    obtain rfl := Option.some.inj opened
    exact h.add absent (unambiguous_rows_iff.2 (List.forall_mem_singleton.2 unambiguous_nil))
  · next tables found =>
    obtain rfl := Option.some.inj opened
    have inside := unambiguous_rows_iff.1 (h.of_lookup found)
    exact h.replace (unambiguous_rows_iff.2
      (List.forall_mem_append.2 ⟨inside, List.forall_mem_singleton.2 unambiguous_nil⟩))
  · cases opened

/-! ### Steps and runs -/

/-- What every step keeps holds after all of them. -/
theorem foldlM_invariant {σ β : Type} {step : σ → β → Option σ} {P : σ → Prop} {Q : β → Prop}
    (keeps : ∀ s b s', P s → Q b → step s b = some s' → P s') {bs : List β} {s s' : σ}
    (start : P s) (sound : ∀ b ∈ bs, Q b) (h : bs.foldlM step s = some s') : P s' := by
  induction bs generalizing s with
  | nil =>
    obtain rfl := Option.some.inj h
    exact start
  | cons b bs ih =>
    rw [List.foldlM_cons] at h
    obtain ⟨next, first, rest⟩ := Option.bind_eq_some_iff.1 h
    obtain ⟨soundHere, soundLater⟩ := List.forall_mem_cons.1 sound
    exact ih (keeps s b next start soundHere first) soundLater rest

/-- A statement that gives a key a value gives it one without an ambiguity. -/
def Statement.Unambiguous : Statement → Prop
  | .openTable _ | .openRow _ => True
  | .assign _ value => value.Unambiguous

theorem unambiguous_add {draft draft' : Draft} {statement : Statement}
    (h : Unambiguous draft.root) (sound : statement.Unambiguous)
    (added : draft.add statement = some draft') : Unambiguous draft'.root := by
  cases statement with
  | openTable path =>
    unfold Draft.add at added
    dsimp only at added
    split at added
    · obtain ⟨root, result, rfl⟩ := Option.map_eq_some_iff.1 added
      exact unambiguous_within (fun _ _ => unambiguous_openHere) h result
    · cases added
  | openRow path =>
    unfold Draft.add at added
    dsimp only at added
    split at added
    · obtain ⟨root, result, rfl⟩ := Option.map_eq_some_iff.1 added
      exact unambiguous_within (fun _ _ => unambiguous_openRowHere) h result
    · cases added
  | assign path value =>
    obtain ⟨root, result, rfl⟩ := Option.map_eq_some_iff.1 added
    exact unambiguous_within (fun _ _ => unambiguous_assign sound) h result

/-! ### Finished tables -/

theorem valuesOf_eq_map (nodes : Nodes) :
    valuesOf nodes = nodes.map fun entry => (entry.1, entry.2.toValue) := by
  induction nodes with
  | nil => rfl
  | cons entry nodes ih => rw [valuesOf, ih, List.map_cons]

theorem rowsOf_eq_map (tables : List Nodes) :
    rowsOf tables = tables.map fun nodes => .table (valuesOf nodes) := by
  induction tables with
  | nil => rfl
  | cons nodes tables ih => rw [rowsOf, ih, List.map_cons]

/-- A table is finished entry by entry. -/
theorem unambiguous_valuesOf {nodes : Nodes} (nodup : (nodes.map Prod.fst).Nodup)
    (sound : ∀ entry ∈ nodes, entry.2.toValue.Unambiguous) :
    (Value.table (valuesOf nodes)).Unambiguous := by
  rw [valuesOf_eq_map]
  refine .table ?_ (List.forall_mem_map.2 sound)
  rwa [List.map_map]

theorem unambiguous_toValue {node : Node} (h : node.Unambiguous) : node.toValue.Unambiguous := by
  induction h with
  | value sound => exact sound
  | table nodup _ ih => exact unambiguous_valuesOf nodup ih
  | rows nodup _ ih =>
    rw [Node.toValue, rowsOf_eq_map]
    exact .array (List.forall_mem_map.2 fun nodes member =>
      unambiguous_valuesOf (nodup nodes member) (ih nodes member))

theorem Unambiguous.valuesOf {nodes : Nodes} (h : Unambiguous nodes) :
    (Value.table (valuesOf nodes)).Unambiguous :=
  unambiguous_valuesOf h.nodup fun entry member => unambiguous_toValue (h.node entry member)

/-! ### Values -/

theorem isLeaf_ofInteger (n : Int) : (ofInteger n).isLeaf = true := by
  unfold ofInteger
  split
  · rfl
  · rfl

theorem isLeaf_ofScaled (s : Signed) (number : Decimal.Scaled) :
    (ofScaled s number).isLeaf = true := by
  unfold ofScaled
  split
  · rfl
  · rfl

theorem isLeaf_of_ofBase? {base : Nat} {isDigit : Char → Bool} {cs : List Char} {value : Value}
    (h : ofBase? base isDigit cs = some value) : value.isLeaf = true := by
  unfold ofBase? at h
  split at h
  · obtain rfl := Option.some.inj h
    rfl
  · obtain ⟨n, -, rfl⟩ := Option.map_eq_some_iff.1 h
    exact isLeaf_ofInteger n

theorem isLeaf_of_ofDecimal? {s : Signed} {value : Value} (h : ofDecimal? s = some value) :
    value.isLeaf = true := by
  unfold ofDecimal? at h
  split at h
  · obtain rfl := Option.some.inj h
    exact isLeaf_ofInteger _
  · split at h
    · obtain rfl := Option.some.inj h
      rfl
    · cases h

theorem isLeaf_of_ofSigned? {s : Signed} {value : Value} (h : ofSigned? s = some value) :
    value.isLeaf = true := by
  unfold ofSigned? at h
  split at h
  · obtain rfl := Option.some.inj h
    rfl
  · split at h
    · obtain rfl := Option.some.inj h
      rfl
    · split at h
      · obtain ⟨number, -, rfl⟩ := Option.map_eq_some_iff.1 h
        exact isLeaf_ofScaled s number
      · exact isLeaf_of_ofDecimal? h

theorem isLeaf_of_number? {cs : List Char} {value : Value} (h : number? cs = some value) :
    value.isLeaf = true := by
  unfold number? at h
  split at h
  · exact isLeaf_of_ofBase? h
  · exact isLeaf_of_ofBase? h
  · exact isLeaf_of_ofBase? h
  · exact isLeaf_of_ofSigned? h

theorem isLeaf_of_ofWord? {word : List Char} {value : Value} (h : ofWord? word = some value) :
    value.isLeaf = true := by
  unfold ofWord? at h
  split at h
  · obtain rfl := Option.some.inj h
    rfl
  · split at h
    · obtain rfl := Option.some.inj h
      rfl
    · split at h
      · obtain rfl := Option.some.inj h
        rfl
      · exact isLeaf_of_number? h

/-- A string or a bare word. -/
theorem isLeaf_of_leaf? {cs rest : List Char} {value : Value}
    (h : leaf? cs = some (value, rest)) : value.isLeaf = true := by
  unfold leaf? at h
  split at h
  · obtain ⟨read, -, same⟩ := Option.map_eq_some_iff.1 h
    obtain ⟨rfl, -⟩ := Prod.mk.inj same
    rfl
  · obtain ⟨read, -, same⟩ := Option.map_eq_some_iff.1 h
    obtain ⟨rfl, -⟩ := Prod.mk.inj same
    rfl
  · obtain ⟨found, read, same⟩ := Option.bind_eq_some_iff.1 h
    obtain ⟨rfl, -⟩ := Prod.mk.inj (Option.some.inj same)
    exact isLeaf_of_ofWord? read

theorem parts?_forall {α : Type} {part? : List Char → Option (α × List Char)} {close : Char}
    {P : α → Prop} (each : ∀ cs part rest, part? cs = some (part, rest) → P part) {fuel : Nat}
    {cs rest : List Char} {parts : List α} (h : parts? part? close fuel cs = some (parts, rest)) :
    ∀ part ∈ parts, P part := by
  induction fuel generalizing cs rest parts with
  | zero => cases h
  | succ fuel ih =>
    obtain ⟨front, -, h⟩ := Option.bind_eq_some_iff.1 h
    split at h
    · cases h
    · split at h
      · obtain ⟨rfl, -⟩ := Prod.mk.inj (Option.some.inj h)
        exact List.forall_mem_nil P
      · obtain ⟨⟨part, after⟩, read, h⟩ := Option.bind_eq_some_iff.1 h
        obtain ⟨front, -, h⟩ := Option.bind_eq_some_iff.1 h
        have here := each _ part after read
        split at h
        · cases h
        · split at h
          · obtain ⟨⟨others, last⟩, more, same⟩ := Option.map_eq_some_iff.1 h
            obtain ⟨rfl, -⟩ := Prod.mk.inj same
            exact List.forall_mem_cons.2 ⟨here, ih more⟩
          · split at h
            · obtain ⟨rfl, -⟩ := Prod.mk.inj (Option.some.inj h)
              exact List.forall_mem_singleton.2 here
            · cases h

/-- The value of a key is one that was read. -/
theorem exists_of_keyValue? {gap? : List Char → Option (List Char)}
    {value? : List Char → Option (Value × List Char)} {cs rest : List Char}
    {path : List String} {value : Value} (h : keyValue? gap? value? cs = some ((path, value), rest)) :
    ∃ front, value? front = some (value, rest) := by
  obtain ⟨⟨keys, after⟩, -, h⟩ := Option.bind_eq_some_iff.1 h
  obtain ⟨gap, -, h⟩ := Option.bind_eq_some_iff.1 h
  split at h
  · obtain ⟨front, -, h⟩ := Option.bind_eq_some_iff.1 h
    obtain ⟨⟨found, last⟩, read, same⟩ := Option.bind_eq_some_iff.1 h
    simp only [Option.some.injEq, Prod.mk.injEq] at same
    obtain ⟨⟨-, rfl⟩, rfl⟩ := same
    exact ⟨front, read⟩
  · cases h

/-- By induction on how deep values may nest. -/
theorem unambiguous_of_value? {depth : Nat} {cs rest : List Char} {value : Value}
    (h : value? depth cs = some (value, rest)) : value.Unambiguous := by
  induction depth generalizing cs rest value with
  | zero => exact .leaf (isLeaf_of_leaf? h)
  | succ depth ih =>
    unfold value? at h
    split at h
    · next inner _ deeper =>
      obtain rfl := Nat.succ.inj deeper
      obtain ⟨⟨items, last⟩, read, same⟩ := Option.map_eq_some_iff.1 h
      obtain ⟨rfl, -⟩ := Prod.mk.inj same
      exact .array (parts?_forall (fun _ _ _ => ih) read)
    · next inner _ deeper =>
      obtain rfl := Nat.succ.inj deeper
      obtain ⟨⟨entries, last⟩, read, h⟩ := Option.bind_eq_some_iff.1 h
      obtain ⟨table, assigned, same⟩ := Option.bind_eq_some_iff.1 h
      obtain ⟨rfl, -⟩ := Prod.mk.inj (Option.some.inj same)
      have sound : ∀ entry ∈ entries, entry.2.Unambiguous := by
        refine parts?_forall (fun _ entry _ found => ?_) read
        obtain ⟨front, found⟩ := exists_of_keyValue? found
        exact ih found
      have built : Unambiguous table := foldlM_invariant
        (fun _ _ _ built sound => unambiguous_assign sound built) unambiguous_nil sound assigned
      exact built.valuesOf
    · exact .leaf (isLeaf_of_leaf? h)

/-! ### Documents -/

theorem unambiguous_of_statement? {cs rest : List Char} {statement : Statement}
    (h : statement? cs = some (statement, rest)) : statement.Unambiguous := by
  unfold statement? at h
  split at h
  · obtain ⟨⟨path, after⟩, -, h⟩ := Option.bind_eq_some_iff.1 h
    dsimp only at h
    split at h
    · obtain ⟨rfl, -⟩ := Prod.mk.inj (Option.some.inj h)
      trivial
    · cases h
  · obtain ⟨⟨path, after⟩, -, h⟩ := Option.bind_eq_some_iff.1 h
    dsimp only at h
    split at h
    · obtain ⟨rfl, -⟩ := Prod.mk.inj (Option.some.inj h)
      trivial
    · cases h
  · obtain ⟨⟨⟨path, value⟩, last⟩, read, same⟩ := Option.map_eq_some_iff.1 h
    obtain ⟨rfl, -⟩ := Prod.mk.inj same
    obtain ⟨front, found⟩ := exists_of_keyValue? read
    exact unambiguous_of_value? found

theorem unambiguous_of_statements? {fuel : Nat} {cs : List Char} {statements : List Statement}
    (h : statements? fuel cs = some statements) : ∀ s ∈ statements, s.Unambiguous := by
  induction fuel generalizing cs statements with
  | zero => cases h
  | succ fuel ih =>
    obtain ⟨front, -, h⟩ := Option.bind_eq_some_iff.1 h
    split at h
    · obtain rfl := Option.some.inj h
      exact List.forall_mem_nil _
    · obtain ⟨⟨statement, after⟩, read, h⟩ := Option.bind_eq_some_iff.1 h
      obtain ⟨next, -, h⟩ := Option.bind_eq_some_iff.1 h
      obtain ⟨others, more, rfl⟩ := Option.map_eq_some_iff.1 h
      exact List.forall_mem_cons.2 ⟨unambiguous_of_statement? read, ih more⟩

/-- **Each key once.** No table of a document has a key twice. -/
theorem unambiguous_of_parse? {text : String} {table : Table} (h : parse? text = some table) :
    (Value.table table).Unambiguous := by
  obtain ⟨statements, read, h⟩ := Option.bind_eq_some_iff.1 h
  obtain ⟨draft, built, rfl⟩ := Option.map_eq_some_iff.1 h
  have sound : Unambiguous draft.root :=
    foldlM_invariant (P := fun draft => Unambiguous draft.root) (fun _ _ _ => unambiguous_add)
      unambiguous_nil (unambiguous_of_statements? read) built
  exact sound.valuesOf

/-! ### What a table gives for a key -/

/-- What stands for a key is told by the entries in any order. -/
theorem lookup_eq_some_iff_mem {table : Table} (nodup : (table.map Prod.fst).Nodup) {key : String}
    {value : Value} : table.lookup key = some value ↔ (key, value) ∈ table := by
  refine ⟨mem_of_lookup, fun member => ?_⟩
  obtain ⟨before, after, rfl⟩ := List.append_of_mem member
  refine List.lookup_eq_some_iff.2 ⟨before, after, rfl, fun entry earlier => ?_⟩
  rw [List.map_append, List.nodup_append] at nodup
  exact bne_iff_ne.2 fun same => nodup.2.2 entry.1 (List.mem_map_of_mem earlier) key (by simp)
    same.symm

theorem Value.Unambiguous.nodup {table : Table} (h : (Value.table table).Unambiguous) :
    (table.map Prod.fst).Nodup := by
  cases h with
  | leaf leaf => cases leaf
  | table nodup _ => exact nodup

/-- What an unambiguous table gives is unambiguous. -/
theorem Value.Unambiguous.of_lookup {table : Table} (h : (Value.table table).Unambiguous)
    {key : String} {value : Value} (found : table.lookup key = some value) :
    value.Unambiguous := by
  cases h with
  | leaf leaf => cases leaf
  | table _ sound => exact sound _ (mem_of_lookup found)

end Almanac.Toml
