import HostInventory.Fields
import HostInventory.Toml.Parser
import Mathlib.Tactic.SplitIfs

/-!
# Names in a document

The names in every table of a document that was read are pairwise different, in the tables that
headers and dots put together as well as in those written in braces (`distinct_of_parse?`). A table
under construction keeps this: a name is set where it stands already, or where no other table has
taken it.
-/

namespace HostInventory.Toml

/-- The names in every table of a value are pairwise different. -/
inductive Distinct : Toml → Prop where
  | string (s : String) : Distinct (.string s)
  | integer (n : Int) : Distinct (.integer n)
  | real (x : Real) : Distinct (.real x)
  | boolean (b : Bool) : Distinct (.boolean b)
  | time (text : String) : Distinct (.time text)
  | array {items : List Toml} (h : ∀ v ∈ items, Distinct v) : Distinct (.array items)
  | table {members : List (String × Toml)} (hnames : (members.map Prod.fst).Nodup)
      (h : ∀ m ∈ members, Distinct m.2) : Distinct (.table members)

/-- The names in every table of a node are pairwise different. -/
inductive Node.Distinct : Node → Prop where
  | closed {value : Toml} (h : value.Distinct) : Distinct (.closed value)
  | table {origin : Origin} {members : Members} (hnames : (members.map Prod.fst).Nodup)
      (h : ∀ m ∈ members, Distinct m.2) : Distinct (.table origin members)
  | tables {before : List Members} {last : Members}
      (hnames : ∀ members ∈ before ++ [last], (members.map Prod.fst).Nodup)
      (h : ∀ members ∈ before ++ [last], ∀ m ∈ members, Distinct m.2) :
      Distinct (.tables before last)

/-- The names of members and those in all their tables are pairwise different. -/
structure Members.Distinct (members : Members) : Prop where
  names : (members.map Prod.fst).Nodup
  nodes : ∀ m ∈ members, m.2.Distinct

namespace Members

/-- A name stands where it stood before, or behind all others. -/
theorem names_set (name : String) (node : Node) (members : Members) :
    (members.set name node).map Prod.fst =
      if name ∈ members.map Prod.fst then members.map Prod.fst
      else members.map Prod.fst ++ [name] := by
  induction members with
  | nil => rfl
  | cons m members ih =>
      obtain ⟨n, old⟩ := m
      by_cases hn : n = name
      · simp [Members.set, hn]
      · simp only [Members.set, if_neg hn, List.map_cons, ih, List.mem_cons, Ne.symm hn, false_or]
        split <;> rfl

theorem mem_set {name : String} {node : Node} {members : Members} {m : String × Node}
    (h : m ∈ members.set name node) : m = (name, node) ∨ m ∈ members := by
  induction members with
  | nil => exact .inl (List.mem_singleton.mp h)
  | cons first members ih =>
      obtain ⟨n, old⟩ := first
      by_cases hn : n = name
      · rw [Members.set, if_pos hn] at h
        rcases List.mem_cons.mp h with rfl | h
        · exact .inl (by rw [hn])
        · exact .inr (List.mem_cons_of_mem _ h)
      · rw [Members.set, if_neg hn] at h
        rcases List.mem_cons.mp h with rfl | h
        · exact .inr List.mem_cons_self
        · exact (ih h).imp_right (List.mem_cons_of_mem _)

namespace Distinct

variable {members : Members}

theorem nil : Members.Distinct [] :=
  ⟨List.nodup_nil, fun _ h => nomatch h⟩

theorem set (h : members.Distinct) {node : Node} (hnode : node.Distinct) (name : String) :
    (members.set name node).Distinct where
  names := by
    rw [names_set]
    split
    · exact h.names
    · rename_i hname
      refine List.nodup_append.mpr ⟨h.names, by simp, fun n hn n' hn' heq => hname ?_⟩
      rwa [← List.mem_singleton.mp hn', ← heq]
  nodes m hm := by
    rcases mem_set hm with rfl | hm
    · exact hnode
    · exact h.nodes m hm

theorem lookup (h : members.Distinct) {name : String} {node : Node}
    (hlookup : members.lookup name = some node) : node.Distinct :=
  h.nodes (name, node) (Fields.mem_of_lookup hlookup)

end Distinct

end Members

theorem Node.distinct_table_iff {origin : Origin} {members : Members} :
    (Node.table origin members).Distinct ↔ members.Distinct := by
  constructor
  · intro h
    cases h with
    | table hnames hnodes => exact ⟨hnames, hnodes⟩
  · exact fun h => .table h.names h.nodes

theorem Node.distinct_tables_iff {before : List Members} {last : Members} :
    (Node.tables before last).Distinct ↔
      ∀ members ∈ before ++ [last], Members.Distinct members := by
  constructor
  · intro h
    cases h with
    | tables hnames hnodes => exact fun members hm => ⟨hnames members hm, hnodes members hm⟩
  · exact fun h => .tables (fun members hm => (h members hm).names) fun members hm =>
      (h members hm).nodes

/-- The last of several tables may be changed, and one may be put behind it. -/
theorem Node.distinct_tables_append {before : List Members} {last : Members}
    (hbefore : ∀ members ∈ before, Members.Distinct members) (hlast : last.Distinct) :
    (Node.tables before last).Distinct := by
  refine distinct_tables_iff.mpr fun members hm => ?_
  rcases List.mem_append.mp hm with hm | hm
  · exact hbefore members hm
  · exact List.mem_singleton.mp hm ▸ hlast

/-! ## Changes of a table -/

def KeepsDistinct (change : Origin → Members → Option Members) : Prop :=
  ∀ own members members', members.Distinct → change own members = some members' →
    members'.Distinct

theorem KeepsDistinct.descend {origin : Origin} {change : Origin → Members → Option Members}
    (hchange : KeepsDistinct change) (path : List String) :
    KeepsDistinct (descend origin change path) := by
  induction path with
  | nil => exact hchange
  | cons name path ih =>
      intro own members members' hmembers h
      rw [Toml.descend] at h
      split at h
      · obtain ⟨inner, hinner, heq⟩ := Option.bind_eq_some_iff.mp h
        cases heq
        exact hmembers.set (Node.distinct_table_iff.mpr (ih _ _ _ .nil hinner)) name
      · rename_i own inner hlookup
        split at h
        · cases h
        · obtain ⟨inner', hinner, heq⟩ := Option.bind_eq_some_iff.mp h
          cases heq
          have hdistinct := Node.distinct_table_iff.mp (hmembers.lookup hlookup)
          exact hmembers.set (Node.distinct_table_iff.mpr (ih _ _ _ hdistinct hinner)) name
      · rename_i before last hlookup
        obtain ⟨last', hlast, heq⟩ := Option.bind_eq_some_iff.mp h
        cases heq
        have htables := Node.distinct_tables_iff.mp (hmembers.lookup hlookup)
        have hdistinct := ih _ _ _ (htables last (by simp)) hlast
        exact hmembers.set (Node.distinct_tables_append
          (fun members hm => htables members (List.mem_append_left _ hm)) hdistinct) name
      · cases h

theorem KeepsDistinct.inOpened {change : Origin → Members → Option Members}
    (hchange : KeepsDistinct change) (path : List String) :
    KeepsDistinct (inOpened change path) := by
  induction path with
  | nil => exact hchange
  | cons name path ih =>
      intro own members members' hmembers h
      rw [Toml.inOpened] at h
      split at h
      · rename_i own inner hlookup
        obtain ⟨inner', hinner, heq⟩ := Option.bind_eq_some_iff.mp h
        cases heq
        have hdistinct := Node.distinct_table_iff.mp (hmembers.lookup hlookup)
        exact hmembers.set (Node.distinct_table_iff.mpr (ih _ _ _ hdistinct hinner)) name
      · rename_i before last hlookup
        obtain ⟨last', hlast, heq⟩ := Option.bind_eq_some_iff.mp h
        cases heq
        have htables := Node.distinct_tables_iff.mp (hmembers.lookup hlookup)
        have hdistinct := ih _ _ _ (htables last (by simp)) hlast
        exact hmembers.set (Node.distinct_tables_append
          (fun members hm => htables members (List.mem_append_left _ hm)) hdistinct) name
      · cases h

theorem keepsDistinct_addValue (path : List String) (name : String) {value : Toml}
    (hvalue : value.Distinct) : KeepsDistinct (addValue path name value) := by
  refine KeepsDistinct.descend (fun own members members' hmembers h => ?_) path
  split_ifs at h
  cases h
  exact hmembers.set (.closed hvalue) name

theorem distinct_openTable {path : List String} {name : String} {members members' : Members}
    (hmembers : members.Distinct) (h : openTable path name members = some members') :
    members'.Distinct := by
  refine KeepsDistinct.descend (fun own members members' hmembers h => ?_) path _ _ _ hmembers h
  split at h
  · cases h
    exact hmembers.set (Node.distinct_table_iff.mpr .nil) name
  · rename_i hlookup
    cases h
    have hdistinct := Node.distinct_table_iff.mp (hmembers.lookup hlookup)
    exact hmembers.set (Node.distinct_table_iff.mpr hdistinct) name
  · cases h

theorem distinct_openNext {path : List String} {name : String} {members members' : Members}
    (hmembers : members.Distinct) (h : openNext path name members = some members') :
    members'.Distinct := by
  refine KeepsDistinct.descend (fun own members members' hmembers h => ?_) path _ _ _ hmembers h
  split at h
  · cases h
    exact hmembers.set (Node.distinct_tables_append (by simp) .nil) name
  · rename_i before last hlookup
    cases h
    have htables := Node.distinct_tables_iff.mp (hmembers.lookup hlookup)
    exact hmembers.set (Node.distinct_tables_append htables .nil) name
  · cases h

/-! ## Closing -/

theorem closeMembers_eq_map (members : Members) :
    closeMembers members = members.map fun m => (m.1, m.2.close) := by
  induction members with
  | nil => rfl
  | cons m members ih => rw [closeMembers, ih]; rfl

theorem closeTables_eq_map (tables : List Members) :
    closeTables tables = tables.map fun members => .table (closeMembers members) := by
  induction tables with
  | nil => rfl
  | cons members tables ih => rw [closeTables, ih]; rfl

theorem names_closeMembers (members : Members) :
    (closeMembers members).map Prod.fst = members.map Prod.fst := by
  rw [closeMembers_eq_map, List.map_map]
  rfl

theorem Node.Distinct.close {node : Node} (h : node.Distinct) : node.close.Distinct := by
  induction h with
  | closed hvalue => exact hvalue
  | table hnames _ ih =>
      refine .table ((names_closeMembers _).symm ▸ hnames) fun m hm => ?_
      rw [closeMembers_eq_map] at hm
      obtain ⟨m', hm', rfl⟩ := List.mem_map.mp hm
      exact ih m' hm'
  | @tables before last hnames _ ih =>
      have hclose : (Node.tables before last).close =
          .array ((before ++ [last]).map fun members => .table (closeMembers members)) := by
        rw [Node.close, closeTables_eq_map, List.map_append]
        rfl
      rw [hclose]
      refine .array fun v hv => ?_
      obtain ⟨members, hmembers, rfl⟩ := List.mem_map.mp hv
      refine .table ((names_closeMembers _).symm ▸ hnames members hmembers) fun m hm => ?_
      rw [closeMembers_eq_map] at hm
      obtain ⟨m', hm', rfl⟩ := List.mem_map.mp hm
      exact ih members hmembers m' hm'

theorem Members.Distinct.close {members : Members} (h : members.Distinct) :
    (Toml.table (closeMembers members)).Distinct := by
  have hnode : (Node.table .declared members).Distinct := Node.distinct_table_iff.mpr h
  exact hnode.close

/-! ## Reading -/

theorem distinct_decimal? {negative : Bool} {token : List Char} {v : Toml}
    (h : decimal? negative token = some v) : v.Distinct := by
  rw [decimal?] at h
  -- with an exponent and without one the mantissa is read alike
  split at h
  all_goals
    obtain ⟨⟨mantissa, exponent⟩, -, h⟩ := Option.bind_eq_some_iff.mp h
    dsimp only at h
    split at h
    · obtain ⟨digits, -, heq⟩ := Option.bind_eq_some_iff.mp h
      cases heq
      exact .integer _
    · obtain ⟨digits, -, heq⟩ := Option.bind_eq_some_iff.mp h
      cases heq
      exact .real _
    · obtain ⟨whole, -, h⟩ := Option.bind_eq_some_iff.mp h
      obtain ⟨fraction, -, heq⟩ := Option.bind_eq_some_iff.mp h
      cases heq
      exact .real _

theorem distinct_unsigned? {negative : Bool} {token : List Char} {v : Toml}
    (h : unsigned? negative token = some v) : v.Distinct := by
  rw [unsigned?] at h
  split_ifs at h
  · cases h
    exact .real _
  · cases h
    exact .real _
  · exact distinct_decimal? h

theorem distinct_scalar? {token : List Char} {v : Toml} (h : scalar? token = some v) :
    v.Distinct := by
  rw [scalar?.eq_def] at h
  split_ifs at h
  · cases h
    exact .boolean _
  · cases h
    exact .boolean _
  · cases h
    exact .time _
  · split at h
    · obtain ⟨n, -, rfl⟩ := Option.map_eq_some_iff.mp h
      exact .integer _
    · obtain ⟨n, -, rfl⟩ := Option.map_eq_some_iff.mp h
      exact .integer _
    · obtain ⟨n, -, rfl⟩ := Option.map_eq_some_iff.mp h
      exact .integer _
    · exact distinct_unsigned? h
    · exact distinct_unsigned? h
    · exact distinct_unsigned? h

/-- Whether a reader reads only values whose tables have different names. -/
def ReadsDistinct (read : List Char → Option (Toml × List Char)) : Prop :=
  ∀ s v rest, read s = some (v, rest) → v.Distinct

theorem readsDistinct_readScalar : ReadsDistinct readScalar := by
  intro s v rest h
  rw [readScalar] at h
  split at h
  · split_ifs at h
    · obtain ⟨v', hscalar, heq⟩ := Option.map_eq_some_iff.mp h
      cases heq
      exact distinct_scalar? hscalar
    · obtain ⟨v', hscalar, heq⟩ := Option.map_eq_some_iff.mp h
      cases heq
      exact distinct_scalar? hscalar
  · obtain ⟨v', hscalar, heq⟩ := Option.map_eq_some_iff.mp h
    cases heq
    exact distinct_scalar? hscalar

theorem ReadsDistinct.readItems {readItem : List Char → Option (Toml × List Char)}
    (hitem : ReadsDistinct readItem) {n : Nat} {s : List Char} {items : List Toml}
    {rest : List Char} (h : Toml.readItems readItem n s = some (items, rest)) :
    ∀ v ∈ items, v.Distinct := by
  induction n generalizing s items with
  | zero => cases h
  | succ n ih =>
      obtain ⟨s', -, h⟩ := Option.bind_eq_some_iff.mp h
      split at h
      · cases h
        exact fun v hv => nomatch hv
      · obtain ⟨⟨item, rest'⟩, hread, h⟩ := Option.bind_eq_some_iff.mp h
        have hdistinct := hitem _ _ _ hread
        obtain ⟨s', -, h⟩ := Option.bind_eq_some_iff.mp h
        split at h
        · obtain ⟨⟨more, rest'⟩, hmore, h⟩ := Option.bind_eq_some_iff.mp h
          cases h
          exact List.forall_mem_cons.mpr ⟨hdistinct, ih hmore⟩
        · cases h
          exact List.forall_mem_singleton.mpr hdistinct
        · cases h

theorem ReadsDistinct.readMembers {readItem : List Char → Option (Toml × List Char)}
    (hitem : ReadsDistinct readItem) {n : Nat} {s : List Char} {members members' : Members}
    (hmembers : members.Distinct) {rest : List Char}
    (h : Toml.readMembers readItem n members s = some (members', rest)) : members'.Distinct := by
  induction n generalizing s members with
  | zero => cases h
  | succ n ih =>
      obtain ⟨s', -, h⟩ := Option.bind_eq_some_iff.mp h
      split at h
      · cases h
        exact hmembers
      · obtain ⟨⟨⟨path, name⟩, rest'⟩, -, h⟩ := Option.bind_eq_some_iff.mp h
        dsimp only at h
        split at h
        · obtain ⟨⟨value, rest'⟩, hread, h⟩ := Option.bind_eq_some_iff.mp h
          obtain ⟨added, hadd, h⟩ := Option.bind_eq_some_iff.mp h
          have hadded := keepsDistinct_addValue path name (hitem _ _ _ hread) _ _ _ hmembers hadd
          obtain ⟨s', -, h⟩ := Option.bind_eq_some_iff.mp h
          split at h
          · exact ih hadded h
          · cases h
            exact hadded
          · cases h
        · cases h

theorem readsDistinct_readValue (depth : Nat) : ReadsDistinct (readValue depth) := by
  induction depth using Nat.strongRecOn with
  | ind depth ih =>
    intro s v rest h
    rw [readValue.eq_def] at h
    dsimp only at h
    split at h
    · obtain ⟨text, -, heq⟩ := Option.map_eq_some_iff.mp h
      cases heq
      exact .string _
    · obtain ⟨text, -, heq⟩ := Option.map_eq_some_iff.mp h
      cases heq
      exact .string _
    · split at h
      · cases h
      · obtain ⟨⟨items, rest'⟩, hitems, heq⟩ := Option.map_eq_some_iff.mp h
        cases heq
        exact .array ((ih _ (Nat.lt_succ_self _)).readItems hitems)
    · split at h
      · cases h
      · obtain ⟨⟨members, rest'⟩, hmembers, heq⟩ := Option.map_eq_some_iff.mp h
        cases heq
        exact ((ih _ (Nat.lt_succ_self _)).readMembers .nil hmembers).close
    · exact readsDistinct_readScalar _ _ _ h

/-! ## Documents -/

theorem distinct_readHeader {d d' : Draft} {s rest : List Char} (hd : d.members.Distinct)
    (h : readHeader d s = some (d', rest)) : d'.members.Distinct := by
  rw [readHeader.eq_def] at h
  split at h
  · obtain ⟨⟨⟨path, name⟩, rest'⟩, -, h⟩ := Option.bind_eq_some_iff.mp h
    obtain ⟨rest', -, h⟩ := Option.bind_eq_some_iff.mp h
    obtain ⟨members, hopen, h⟩ := Option.bind_eq_some_iff.mp h
    obtain ⟨rest', -, heq⟩ := Option.bind_eq_some_iff.mp h
    cases heq
    exact distinct_openNext hd hopen
  · obtain ⟨⟨⟨path, name⟩, rest'⟩, -, h⟩ := Option.bind_eq_some_iff.mp h
    obtain ⟨rest', -, h⟩ := Option.bind_eq_some_iff.mp h
    obtain ⟨members, hopen, h⟩ := Option.bind_eq_some_iff.mp h
    obtain ⟨rest', -, heq⟩ := Option.bind_eq_some_iff.mp h
    cases heq
    exact distinct_openTable hd hopen

theorem distinct_readPair {d d' : Draft} {s rest : List Char} (hd : d.members.Distinct)
    (h : readPair d s = some (d', rest)) : d'.members.Distinct := by
  rw [readPair] at h
  obtain ⟨⟨⟨path, name⟩, rest'⟩, -, h⟩ := Option.bind_eq_some_iff.mp h
  obtain ⟨rest', -, h⟩ := Option.bind_eq_some_iff.mp h
  obtain ⟨⟨value, rest'⟩, hread, h⟩ := Option.bind_eq_some_iff.mp h
  obtain ⟨members, hadd, h⟩ := Option.bind_eq_some_iff.mp h
  obtain ⟨rest', -, heq⟩ := Option.bind_eq_some_iff.mp h
  cases heq
  have hvalue := readsDistinct_readValue maxNesting _ _ _ hread
  exact (keepsDistinct_addValue path name hvalue).inOpened d.opened _ _ _ hd hadd

theorem distinct_readLines {n : Nat} {d d' : Draft} {s : List Char} (hd : d.members.Distinct)
    (h : readLines n d s = some d') : d'.members.Distinct := by
  induction n generalizing d s with
  | zero => cases h
  | succ n ih =>
      rw [readLines] at h
      obtain ⟨s', -, h⟩ := Option.bind_eq_some_iff.mp h
      split at h
      · cases h
        exact hd
      · obtain ⟨⟨next, rest⟩, hheader, h⟩ := Option.bind_eq_some_iff.mp h
        exact ih (distinct_readHeader hd hheader) h
      · obtain ⟨⟨next, rest⟩, hpair, h⟩ := Option.bind_eq_some_iff.mp h
        exact ih (distinct_readPair hd hpair) h

/-- The names in every table of a document are pairwise different. -/
theorem distinct_of_parse? {text : String} {doc : List (String × Toml)}
    (h : parse? text = some doc) : (Toml.table doc).Distinct := by
  rw [parse?] at h
  obtain ⟨d, hlines, rfl⟩ := Option.map_eq_some_iff.mp h
  exact (distinct_readLines .nil hlines).close

end HostInventory.Toml
