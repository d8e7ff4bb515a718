import Mathlib
import Gatehouse.Proofs.Lookup
import Gatehouse.Toml.Document

/-!
# Nothing is defined twice

The names in a table of a document are distinct, and so are those in the tables inside it (`distinct_of_document`).
Under construction this is an invariant of the tree: what enters a table takes the place of the node of its name or has
a new name, so every change at the end of a path keeps it (`Members.Distinct.descend`).
-/

namespace Gatehouse.Toml

variable {members members' : Members} {key : String} {node : Node}

/-! ## Values and nodes -/

/-- The names in every table of a value are distinct. -/
inductive Value.Distinct : Value → Prop
  | text (s : String) : Distinct (.text s)
  | integer (n : Int) : Distinct (.integer n)
  | float (x : Binary64) : Distinct (.float x)
  | bool (b : Bool) : Distinct (.bool b)
  | moment (s : String) : Distinct (.moment s)
  | list {items : List Value} : (∀ v ∈ items, v.Distinct) → Distinct (.list items)
  | table {members : List (String × Value)} :
      (members.map Prod.fst).Nodup → (∀ member ∈ members, member.2.Distinct) → Distinct (.table members)

/-- The names in every table of a node are distinct. -/
inductive Node.Distinct : Node → Prop
  | value {v : Value} : v.Distinct → Distinct (.value v)
  | table {origin : Origin} {members : Members} :
      (members.map Prod.fst).Nodup → (∀ member ∈ members, member.2.Distinct) → Distinct (.table origin members)
  | tables {elements : List Members} :
      (∀ members ∈ elements, (members.map Prod.fst).Nodup) →
      (∀ members ∈ elements, ∀ member ∈ members, member.2.Distinct) → Distinct (.tables elements)

/-- The names of members are distinct, and so are those in every table of them. -/
structure Members.Distinct (members : Members) : Prop where
  names : (members.map Prod.fst).Nodup
  nodes : ∀ member ∈ members, member.2.Distinct

/-- A table is as its members are. -/
theorem Node.distinct_table_iff {origin : Origin} : (Node.table origin members).Distinct ↔ members.Distinct := by
  constructor
  · rintro (_ | ⟨hnames, hnodes⟩)
    exact ⟨hnames, hnodes⟩
  · rintro ⟨hnames, hnodes⟩
    exact .table hnames hnodes

/-- An array of tables is as its elements are. -/
theorem Node.distinct_tables_iff {elements : List Members} :
    (Node.tables elements).Distinct ↔ ∀ members ∈ elements, Members.Distinct members := by
  constructor
  · rintro (_ | _ | ⟨hnames, hnodes⟩)
    exact fun members hmem => ⟨hnames members hmem, hnodes members hmem⟩
  · exact fun h => .tables (fun members hmem => (h members hmem).names) (fun members hmem => (h members hmem).nodes)

/-! ## Finished values -/

/-- The values of members, one by one. -/
theorem memberValues_eq_map (members : Members) :
    memberValues members = members.map fun member => (member.1, member.2.finished) := by
  induction members with
  | nil => rw [memberValues, List.map_nil]
  | cons member members ih => rw [memberValues, ih, List.map_cons]

/-- The values of elements, one by one. -/
theorem elementValues_eq_map (elements : List Members) :
    elementValues elements = elements.map fun members => .table (memberValues members) := by
  induction elements with
  | nil => rw [elementValues, List.map_nil]
  | cons members elements ih => rw [elementValues, ih, List.map_cons]

/-- Values keep the names of their members. -/
theorem names_memberValues (members : Members) : (memberValues members).map Prod.fst = members.map Prod.fst := by
  rw [memberValues_eq_map, List.map_map]
  rfl

/-- The table of the values of members whose nodes are finished to values with distinct names. -/
theorem distinct_memberValues (hnames : (members.map Prod.fst).Nodup)
    (hvalues : ∀ member ∈ members, member.2.finished.Distinct) : (Value.table (memberValues members)).Distinct := by
  refine .table (by rwa [names_memberValues]) ?_
  rw [memberValues_eq_map]
  intro value hvalue
  obtain ⟨member, hmember, rfl⟩ := List.mem_map.1 hvalue
  exact hvalues member hmember

/-- The value of a node has the tables of the node. -/
theorem Node.Distinct.finished (h : node.Distinct) : node.finished.Distinct := by
  induction h with
  | value hv => rwa [Node.finished]
  | table hnames _ ih =>
    rw [Node.finished]
    exact distinct_memberValues hnames ih
  | tables hnames _ ih =>
    rw [Node.finished, elementValues_eq_map]
    refine .list fun v hv => ?_
    obtain ⟨members, hmembers, rfl⟩ := List.mem_map.1 hv
    exact distinct_memberValues (hnames members hmembers) (ih members hmembers)

namespace Members

/-- The table of the values of members. -/
theorem Distinct.values (h : members.Distinct) : (Value.table (memberValues members)).Distinct :=
  distinct_memberValues h.names fun member hmember => (h.nodes member hmember).finished

/-! ## Changes -/

/-- No members. -/
theorem distinct_nil : Members.Distinct [] := ⟨List.nodup_nil, nofun⟩

/-- The node of a name. -/
theorem Distinct.of_lookup (h : members.Distinct) (hlookup : members.lookup key = some node) : node.Distinct :=
  h.nodes (key, node) (Lookup.mem_of_lookup_eq_some hlookup)

/-- What is among members after a node is put there. -/
theorem mem_put {member : String × Node} (h : member ∈ put key node members) :
    member = (key, node) ∨ member ∈ members := by
  induction members with
  | nil => exact Or.inl (List.mem_singleton.1 h)
  | cons first members ih =>
    obtain ⟨k, n⟩ := first
    rw [put] at h
    split_ifs at h with hk
    · exact (List.mem_cons.1 h).imp_right fun h => List.mem_cons_of_mem _ h
    · rcases List.mem_cons.1 h with rfl | h
      · exact Or.inr List.mem_cons_self
      · exact (ih h).imp_right fun h => List.mem_cons_of_mem _ h

/-- A node takes the place of the one of its name. -/
theorem Distinct.put (h : members.Distinct) (hnode : node.Distinct) : (Members.put key node members).Distinct := by
  refine ⟨?_, fun member hmember => ?_⟩
  · replace h := h.names
    induction members with
    | nil => exact List.nodup_singleton key
    | cons first members ih =>
      obtain ⟨k, n⟩ := first
      obtain ⟨hfirst, hrest⟩ := List.nodup_cons.1 h
      rw [Members.put]
      split_ifs with hk
      · subst hk
        exact List.nodup_cons.2 ⟨hfirst, hrest⟩
      · refine List.nodup_cons.2 ⟨fun hmem => ?_, ih hrest⟩
        obtain ⟨member, hmember, hname⟩ := List.mem_map.1 hmem
        rcases mem_put hmember with rfl | hmember
        · exact hk hname.symm
        · exact hfirst (hname ▸ List.mem_map_of_mem hmember)
  · rcases mem_put hmember with rfl | hmember
    · exact hnode
    · exact h.nodes member hmember

/-- A node of a new name is added. -/
theorem Distinct.append (h : members.Distinct) (hnew : members.lookup key = none) (hnode : node.Distinct) :
    Members.Distinct (members ++ [(key, node)]) := by
  refine ⟨?_, fun member hmember => ?_⟩
  · exact Lookup.nodup_append_singleton h.names hnew node
  · rcases List.mem_append.1 hmember with hmember | hmember
    · exact h.nodes member hmember
    · obtain rfl := List.mem_singleton.1 hmember
      exact hnode

/-- A change of the table at the end of a path that keeps names distinct keeps those of the whole tree distinct. -/
theorem Distinct.descend {dotted : Bool} {change : Origin → Members → Option Members}
    (hchange : ∀ origin inner inner', Members.Distinct inner → change origin inner = some inner' → inner'.Distinct)
    {path : List String} {origin : Origin} (h : members.Distinct)
    (hdescend : Toml.descend dotted change origin path members = some members') : members'.Distinct := by
  induction path generalizing origin members members' with
  | nil => exact hchange origin members members' h hdescend
  | cons key path ih =>
    rw [Toml.descend] at hdescend
    split at hdescend
    next =>
      obtain ⟨inner, hinner, rfl⟩ := Option.map_eq_some_iff.1 hdescend
      exact h.put (Node.distinct_table_iff.2 (ih distinct_nil hinner))
    next origin inner hlookup =>
      have hinner := Node.distinct_table_iff.1 (h.of_lookup hlookup)
      split_ifs at hdescend
      obtain ⟨inner', hinner', rfl⟩ := Option.map_eq_some_iff.1 hdescend
      exact h.put (Node.distinct_table_iff.2 (ih hinner hinner'))
    next elements hlookup =>
      have helements := Node.distinct_tables_iff.1 (h.of_lookup hlookup)
      split at hdescend
      next last hlast =>
        obtain ⟨last', hlast', rfl⟩ := Option.map_eq_some_iff.1 hdescend
        refine h.put (Node.distinct_tables_iff.2 fun element helement => ?_)
        rcases List.mem_append.1 helement with helement | helement
        · exact helements element (List.dropLast_subset _ helement)
        · obtain rfl := List.mem_singleton.1 helement
          exact ih (helements last (List.mem_of_getLast? hlast)) hlast'
      next => cases hdescend
    next => cases hdescend

/-- A value is assigned to a key that has none. -/
theorem Distinct.assign {keys : List String} {v : Value} (h : members.Distinct) (hv : v.Distinct)
    (hassign : Toml.assign keys v members = some members') : members'.Distinct := by
  unfold Toml.assign at hassign
  split at hassign
  next => cases hassign
  next key _ =>
    refine h.descend (fun origin inner inner' hinner hnew => ?_) hassign
    split_ifs at hnew with htaken
    obtain rfl := Option.some.inj hnew
    have hnone : inner.lookup key = none := by
      rw [Bool.or_eq_true, not_or] at htaken
      exact Option.not_isSome_iff_eq_none.1 htaken.2
    exact hinner.append hnone (.value hv)

/-- The table of a header is new, or was only passed by. -/
theorem Distinct.openTable (h : members.Distinct) (hopen : Toml.openTable key members = some members') :
    members'.Distinct := by
  unfold Toml.openTable at hopen
  split at hopen
  next hnone =>
    obtain rfl := Option.some.inj hopen
    exact h.append hnone (Node.distinct_table_iff.2 distinct_nil)
  next inner hlookup =>
    obtain rfl := Option.some.inj hopen
    exact h.put (Node.distinct_table_iff.2 (Node.distinct_table_iff.1 (h.of_lookup hlookup)))
  next => cases hopen

/-- Another table of an array of tables has no members yet. -/
theorem Distinct.openElement (h : members.Distinct) (hopen : Toml.openElement key members = some members') :
    members'.Distinct := by
  unfold Toml.openElement at hopen
  split at hopen
  next hnone =>
    obtain rfl := Option.some.inj hopen
    refine h.append hnone (Node.distinct_tables_iff.2 fun element helement => ?_)
    obtain rfl := List.mem_singleton.1 helement
    exact distinct_nil
  next elements hlookup =>
    obtain rfl := Option.some.inj hopen
    refine h.put (Node.distinct_tables_iff.2 fun element helement => ?_)
    rcases List.mem_append.1 helement with helement | helement
    · exact Node.distinct_tables_iff.1 (h.of_lookup hlookup) element helement
    · obtain rfl := List.mem_singleton.1 helement
      exact distinct_nil
  next => cases hopen

end Members

/-! ## Reading -/

/-- A word is no table. -/
theorem distinct_of_wordValue {word : List Char} {v : Value} (h : wordValue? word = some v) : v.Distinct := by
  unfold wordValue? at h
  split_ifs at h
  · obtain rfl := Option.some.inj h
    exact .bool true
  · obtain rfl := Option.some.inj h
    exact .bool false
  · split at h
    next n _ =>
      obtain rfl := Option.some.inj h
      exact .integer n
    next x _ =>
      obtain rfl := Option.some.inj h
      exact .float x
    next =>
      obtain ⟨text, -, rfl⟩ := Option.map_eq_some_iff.1 h
      exact .moment _

/-- What is read with some fuel has distinct names in its tables: values, the items of arrays, the members of inline
tables and the values of assignments. -/
structure ReadsDistinct (fuel : Nat) : Prop where
  value : ∀ {s rest v}, readValue fuel s = some (v, rest) → v.Distinct
  items : ∀ {s rest items}, readItems fuel s = some (items, rest) → ∀ v ∈ items, v.Distinct
  members : ∀ {members : Members} {s rest} {members' : Members}, members.Distinct →
    readMembers fuel members s = some (members', rest) → members'.Distinct
  assignment : ∀ {s rest keys v}, readAssignment fuel s = some ((keys, v), rest) → v.Distinct

namespace ReadsDistinct

variable {fuel : Nat} {s rest : List Char} {v : Value}

/-- Values with more fuel. -/
theorem value_succ (ih : ReadsDistinct fuel) (h : readValue (fuel + 1) s = some (v, rest)) : v.Distinct := by
  rw [readValue.eq_def] at h
  dsimp only at h
  split at h
  · obtain ⟨_, -, heq⟩ := Option.map_eq_some_iff.1 h
    cases heq
    exact .text _
  · obtain ⟨_, -, heq⟩ := Option.map_eq_some_iff.1 h
    cases heq
    exact .text _
  · obtain ⟨_, hitems, heq⟩ := Option.map_eq_some_iff.1 h
    cases heq
    exact .list (ih.items hitems)
  · obtain ⟨_, hmembers, heq⟩ := Option.map_eq_some_iff.1 h
    cases heq
    exact (ih.members Members.distinct_nil hmembers).values
  · obtain ⟨_, hword, heq⟩ := Option.map_eq_some_iff.1 h
    cases heq
    exact distinct_of_wordValue hword

/-- The items of arrays with more fuel. -/
theorem items_succ (ih : ReadsDistinct fuel) {items : List Value} (h : readItems (fuel + 1) s = some (items, rest)) :
    ∀ v ∈ items, v.Distinct := by
  rw [readItems.eq_def] at h
  dsimp only at h
  split at h
  · cases h
    nofun
  · split at h
    next => cases h
    next item _ hitem =>
      split at h
      · obtain ⟨_, hitems, heq⟩ := Option.map_eq_some_iff.1 h
        cases heq
        exact List.forall_mem_cons.2 ⟨ih.value hitem, ih.items hitems⟩
      · cases h
        exact List.forall_mem_singleton.2 (ih.value hitem)
      · cases h

/-- The members of inline tables with more fuel. -/
theorem members_succ (ih : ReadsDistinct fuel) (hmembers : members.Distinct)
    (h : readMembers (fuel + 1) members s = some (members', rest)) : members'.Distinct := by
  rw [readMembers.eq_def] at h
  dsimp only at h
  split at h
  · cases h
    exact hmembers
  · split at h
    next => cases h
    next keys v _ hassignment =>
      split at h
      next => cases h
      next assigned hassign =>
        have hassigned := hmembers.assign (ih.assignment hassignment) hassign
        split at h
        · exact ih.members hassigned h
        · cases h
          exact hassigned
        · cases h

/-- The values of assignments with more fuel. -/
theorem assignment_succ (ih : ReadsDistinct fuel) {keys : List String}
    (h : readAssignment (fuel + 1) s = some ((keys, v), rest)) : v.Distinct := by
  rw [readAssignment.eq_def] at h
  dsimp only at h
  split at h
  · obtain ⟨_, hvalue, heq⟩ := Option.map_eq_some_iff.1 h
    cases heq
    exact ih.value hvalue
  · cases h

end ReadsDistinct

/-- The readers call each other with less fuel, so one induction on the fuel is about all of them. -/
theorem readsDistinct (fuel : Nat) : ReadsDistinct fuel := by
  induction fuel with
  | zero => exact ⟨nofun, nofun, fun _ => nofun, nofun⟩
  | succ fuel ih => exact ⟨ih.value_succ, ih.items_succ, ih.members_succ, ih.assignment_succ⟩

/-- A header keeps names distinct. -/
theorem Draft.distinct_header {d d' : Draft} {isElement : Bool} {keys : List String} (h : d.root.Distinct)
    (hheader : d.header isElement keys = some d') : d'.root.Distinct := by
  unfold Draft.header at hheader
  split at hheader
  next => cases hheader
  next key _ =>
    obtain ⟨root, hroot, rfl⟩ := Option.map_eq_some_iff.1 hheader
    refine h.descend (fun _ inner inner' hinner hopen => ?_) hroot
    cases isElement with
    | true => exact hinner.openElement hopen
    | false => exact hinner.openTable hopen

/-- A statement keeps names distinct. -/
theorem distinct_of_readStatement {d d' : Draft} {s rest : List Char} (h : d.root.Distinct)
    (hread : readStatement d s = some (d', rest)) : d'.root.Distinct := by
  unfold readStatement at hread
  split at hread
  · split at hread
    · obtain ⟨_, hheader, heq⟩ := Option.map_eq_some_iff.1 hread
      cases heq
      exact Draft.distinct_header h hheader
    · cases hread
  · split at hread
    · obtain ⟨_, hheader, heq⟩ := Option.map_eq_some_iff.1 hread
      cases heq
      exact Draft.distinct_header h hheader
    · cases hread
  · split at hread
    next => cases hread
    next keys v _ hassignment =>
      obtain ⟨root, hroot, heq⟩ := Option.map_eq_some_iff.1 hread
      cases heq
      have hv := (readsDistinct _).assignment hassignment
      exact h.descend (fun _ _ _ hinner hassign => hinner.assign hv hassign) hroot

/-- Statements keep names distinct. -/
theorem distinct_of_readStatements {fuel : Nat} {d d' : Draft} {s : List Char} (h : d.root.Distinct)
    (hread : readStatements fuel d s = some d') : d'.root.Distinct := by
  induction fuel generalizing d s with
  | zero => cases hread
  | succ fuel ih =>
    rw [readStatements.eq_def] at hread
    dsimp only at hread
    split at hread
    · cases hread
      exact h
    · split at hread
      next => cases hread
      next hstatement =>
        split at hread
        next => cases hread
        next => exact ih (distinct_of_readStatement h hstatement) hread

/-- Nothing in a document is defined twice. -/
theorem distinct_of_document {s : List Char} {members : List (String × Value)} (h : document? s = some members) :
    (Value.table members).Distinct := by
  obtain ⟨d, hread, rfl⟩ := Option.map_eq_some_iff.1 h
  exact (distinct_of_readStatements Members.distinct_nil hread).values

end Gatehouse.Toml
