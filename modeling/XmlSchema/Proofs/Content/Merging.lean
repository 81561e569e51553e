import XmlSchema.Proofs.Content.Particles
import XmlSchema.Proofs.Filing

set_option autoImplicit false

namespace XmlSchema

namespace Table

variable {κ α : Type} [DecidableEq κ]

theorem putInto_of_absent {key : κ} (change : Option α -> α) {entries : List (κ × α)}
    (absent : key ∉ entries.map (·.1)) :
    putInto key change entries = entries ++ [(key, change none)] := by
  induction entries with
  | nil => rfl
  | cons entry rest ih =>
      simp only [List.map_cons, List.mem_cons, not_or] at absent
      simp [putInto, Ne.symm absent.1, ih absent.2]

theorem entries_put_of_absent {table : Table κ α} {key : κ} (change : Option α -> α)
    (absent : key ∉ table.keys) :
    (table.put key change).entries = table.entries ++ [(key, change none)] :=
  putInto_of_absent change absent

end Table

namespace Definition

inductive Joins : Option Definition -> Definition -> Definition -> Prop where
  | first (added : Definition) : Joins none added added
  | replaces {there added : Definition} (inherits : there.inherited = true)
      (own : added.inherited = false) : Joins (some there) added added
  | stays {there added : Definition} (own : there.inherited = false)
      (inherits : added.inherited = true) : Joins (some there) added there
  | adds {there added : Definition} (alike : there.inherited = added.inherited) :
      Joins (some there) added ⟨there.target, there.occurs + added.occurs, there.inherited⟩

theorem joins_merge (added : Definition) (there : Option Definition) :
    Joins there added (added.merge there) := by
  cases there with
  | none => exact .first added
  | some old =>
      cases before : old.inherited <;> cases comes : added.inherited <;>
        simp only [merge, before, comes]
      · simpa [before] using Joins.adds (before.trans comes.symm)
      · exact .stays before comes
      · exact .replaces before comes
      · simpa [before] using Joins.adds (before.trans comes.symm)

theorem copied_copied (definition : Definition) (one two : Occurs) (first second : Bool) :
    (definition.copied one first).copied two second =
      definition.copied (one * two) (first || second) := by
  cases first <;> cases second <;> simp [copied, mul_assoc]

end Definition

namespace SymbolTable

variable {table : SymbolTable} {entries : List (QName × Definition)}

def copies (table : SymbolTable) (factor : Occurs) (inherited : Bool) : List (QName × Definition) :=
  table.entries.map fun entry => (entry.1, entry.2.copied factor inherited)

@[simp] theorem keys_copies (table : SymbolTable) (factor : Occurs) (inherited : Bool) :
    (table.copies factor inherited).map (·.1) = table.keys := by
  simp [copies, Table.keys]

theorem keys_addAll_of_nodup (nodup : (entries.map (·.1)).Nodup) :
    (table.addAll entries).keys =
      table.keys ++ (entries.map (·.1)).filter fun name => name ∉ table.keys := by
  induction entries generalizing table with
  | nil => simp [addAll]
  | cons entry rest ih =>
      rw [List.map_cons, List.nodup_cons] at nodup
      rw [addAll, List.foldl_cons, ← addAll, ih nodup.2, add, Table.keys_put]
      by_cases there : entry.1 ∈ table.keys
      next => simp [(Table.contains_iff table entry.1).mpr there, there]
      next =>
        -- The name is new; it does not come again, so no later one is kept out because of it.
        have new : ¬ table.contains entry.1 = true := fun held =>
          there ((Table.contains_iff table entry.1).mp held)
        have later : ∀ name ∈ rest.map (·.1), name ≠ entry.1 := by
          rintro name member rfl
          exact nodup.1 member
        have same : ((rest.map (·.1)).filter fun name => name ∉ table.keys ++ [entry.1]) =
            (rest.map (·.1)).filter fun name => name ∉ table.keys := by
          apply List.filter_congr
          intro name member
          simp [later name member]
        rw [if_neg new, same]
        simp [there]

theorem entries_addAll_of_disjoint (nodup : (entries.map (·.1)).Nodup)
    (new : ∀ name ∈ entries.map (·.1), name ∉ table.keys) :
    (table.addAll entries).entries = table.entries ++ entries := by
  induction entries generalizing table with
  | nil => simp [addAll]
  | cons entry rest ih =>
      rw [List.map_cons, List.nodup_cons] at nodup
      have absent : entry.1 ∉ table.keys := new entry.1 (by simp)
      have put : (table.add entry.1 entry.2).entries = table.entries ++ [entry] :=
        Table.entries_put_of_absent _ absent
      have later : ∀ name ∈ rest.map (·.1), name ∉ (table.add entry.1 entry.2).keys := by
        intro name member held
        rw [Table.keys, put, List.map_append, List.mem_append] at held
        rcases held with old | single
        · exact new name (List.mem_cons_of_mem _ member) old
        · obtain rfl : name = entry.1 := by simpa using single
          exact nodup.1 member
      rw [addAll, List.foldl_cons, ← addAll, ih nodup.2 later, put]
      simp

theorem addAll_empty (nodup : (entries.map (·.1)).Nodup) :
    (addAll .empty entries).entries = entries := by
  simpa [Table.empty, Table.keys] using
    @entries_addAll_of_disjoint .empty entries nodup (by simp [Table.keys, Table.empty])

theorem copies_addAll_copies (table : SymbolTable) (one two : Occurs) (first second : Bool) :
    (addAll .empty (table.copies one first)).copies two second =
      table.copies (one * two) (first || second) := by
  have held : (addAll .empty (table.copies one first)).entries =
      table.copies one first := addAll_empty (by simpa using table.nodup_keys)
  rw [copies, held]
  simp [copies, Function.comp_def, Definition.copied_copied]

end SymbolTable

namespace Scopes

variable {scopes : Scopes} {target source middle : ScopeId} {kind : Symbols}

theorem table_inlineInto_self (factor : Occurs) (inherited : Bool)
    (within : target.index < scopes.size) :
    (scopes.inlineInto target kind factor source inherited).table target kind =
      (scopes.table target kind).addAll ((scopes.table source kind).copies factor inherited) :=
  table_changeTable_self _ _ _ within

theorem size_inlineInto (factor : Occurs) (inherited : Bool) :
    (scopes.inlineInto target kind factor source inherited).size = scopes.size :=
  size_changeTable ..

theorem get_inlineInto_of_ne {other : ScopeId} (factor : Occurs) (inherited : Bool)
    (apart : other ≠ target) :
    (scopes.inlineInto target kind factor source inherited).get other = scopes.get other := by
  simp [inlineInto, changeTable, get_change, apart]

theorem inlineInto_inlineInto (within : target.index < scopes.size) (through : middle.index < scopes.size)
    (apart : target ≠ middle) (empty : scopes.table middle kind = .empty) (one two : Occurs)
    (first second : Bool) :
    ((scopes.inlineInto middle kind one source first).inlineInto target kind two middle
        second).table target kind =
      (scopes.inlineInto target kind (one * two) source (first || second)).table target kind := by
  have untouched : (scopes.inlineInto middle kind one source first).table target kind =
      scopes.table target kind := table_inlineInto_of_ne scopes one source first (.inl apart)
  have kept : target.index < (scopes.inlineInto middle kind one source first).size := by
    rwa [size_inlineInto]
  rw [table_inlineInto_self two second kept, untouched,
    table_inlineInto_self one first through, table_inlineInto_self _ _ within, empty,
    SymbolTable.copies_addAll_copies]

/-- Of the names in the table of `target`, those that were there come first, as they stood, and
those that only `source` has follow as they stand there. A name of `source` stands for what its
entry there, copied, and the entry in `target` come to together; all else, in this scope and in
others, is as it was. Both tables count as they were before, also where they are one. To copy into
an empty scope and from there on is to copy by the product of the factors. -/
theorem inlineInto_merges (within : target.index < scopes.size)
    (source : ScopeId) (kind : Symbols) (factor : Occurs) (inherited : Bool) :
    let new := scopes.inlineInto target kind factor source inherited
    ((new.table target kind).keys =
      (scopes.table target kind).keys ++
        (scopes.table source kind).keys.filter fun name => name ∉ (scopes.table target kind).keys) ∧
    (∀ name definition, (scopes.table source kind).get? name = some definition ->
      ∃ entry, (new.table target kind).get? name = some entry ∧
        Definition.Joins ((scopes.table target kind).get? name)
          ⟨definition.target, definition.occurs * factor, inherited || definition.inherited⟩ entry) ∧
    (∀ name, name ∉ (scopes.table source kind).keys ->
      (new.table target kind).get? name = (scopes.table target kind).get? name) ∧
    ((∀ among, among ≠ kind -> new.table target among = scopes.table target among) ∧
      (new.get target).parent = (scopes.get target).parent ∧
      (new.get target).home = (scopes.get target).home ∧
      (new.get target).typeMarker = (scopes.get target).typeMarker) ∧
    (new.size = scopes.size ∧ ∀ other, other ≠ target -> new.get other = scopes.get other) ∧
    (∀ scope among, (new.table scope among).keys.Nodup) ∧
    ∀ (middle : ScopeId) (one two : Occurs) (first second : Bool), middle.index < scopes.size ->
      target ≠ middle -> scopes.table middle kind = .empty ->
      ((scopes.inlineInto middle kind one source first).inlineInto target kind two middle
          second).table target kind =
        (scopes.inlineInto target kind (one * two) source (first || second)).table target kind := by
  intro new
  have joined := @get?_inlineInto_self scopes target source kind factor inherited within
  refine ⟨?keys, ?joins, ?others, ⟨?kinds, parent_changeTable .., home_changeTable ..,
    typeMarker_changeTable ..⟩, ⟨size_inlineInto factor inherited, ?scopes⟩,
    fun scope among => (new.table scope among).nodup_keys, ?through⟩
  case keys =>
    rw [table_inlineInto_self factor inherited within,
      SymbolTable.keys_addAll_of_nodup (by simpa using (scopes.table source kind).nodup_keys), SymbolTable.keys_copies]
  case joins =>
    intro name definition there
    rw [joined, there]
    exact ⟨_, rfl, Definition.joins_merge ..⟩
  case others =>
    intro name absent
    have none : (scopes.table source kind).get? name = none :=
      (Table.find_eq_none_iff name _).mpr absent
    rw [joined, none]
    simp
  case kinds =>
    intro among apart
    exact table_inlineInto_of_ne scopes factor source inherited (.inr apart)
  case scopes =>
    intro other apart
    exact get_inlineInto_of_ne factor inherited apart
  case through =>
    intro middle one two first second through apart empty
    exact inlineInto_inlineInto within through apart empty one two first second

def clashing : Scopes :=
  let bodies := ((Scopes.empty.create none none).create none none).create none none
  let target := ((bodies.add ⟨0⟩ .elements (.unqualified "a") ⟨⟨1⟩, .once, true⟩).add ⟨0⟩ .elements
    (.unqualified "b") ⟨⟨2⟩, .once, false⟩).add ⟨0⟩ .elements (.unqualified "c") ⟨⟨3⟩, .once, false⟩
  (((target.add ⟨1⟩ .elements (.unqualified "d") ⟨⟨4⟩, .oneOrMore, false⟩).add ⟨1⟩ .elements
    (.unqualified "c") ⟨⟨5⟩, .optional, false⟩).add ⟨1⟩ .elements (.unqualified "b")
      ⟨⟨6⟩, .once, true⟩).add ⟨1⟩ .elements (.unqualified "a") ⟨⟨7⟩, .once, false⟩

theorem inlineInto_merges_clashing :
    (0 < clashing.size ∧ 1 < clashing.size ∧ 2 < clashing.size) ∧
    ((clashing.inlineInto ⟨0⟩ .elements ⟨2, some 3⟩ ⟨1⟩ false).table ⟨0⟩ .elements).keys =
      [.unqualified "a", .unqualified "b", .unqualified "c", .unqualified "d"] ∧
    ((clashing.inlineInto ⟨2⟩ .elements ⟨2, some 3⟩ ⟨1⟩ false).inlineInto ⟨0⟩ .elements .zeroOrMore ⟨2⟩
        true).table ⟨0⟩ .elements =
      (clashing.inlineInto ⟨0⟩ .elements ⟨0, none⟩ ⟨1⟩ true).table ⟨0⟩ .elements ∧
    ∃ entry, ((clashing.inlineInto ⟨1⟩ .elements ⟨2, some 3⟩ ⟨1⟩ false).table ⟨1⟩ .elements).get?
        (.unqualified "c") = some entry ∧
      Definition.Joins (some ⟨⟨5⟩, .optional, false⟩) ⟨⟨5⟩, ⟨0, some 3⟩, false⟩ entry := by
  have copied := @inlineInto_merges clashing ⟨0⟩ (by decide) ⟨1⟩ .elements
    ⟨2, some 3⟩ false
  have doubled := @inlineInto_merges clashing ⟨1⟩ (by decide) ⟨1⟩ .elements
    ⟨2, some 3⟩ false
  exact ⟨by decide, copied.1.trans (by decide),
    copied.2.2.2.2.2.2 ⟨2⟩ ⟨2, some 3⟩ .zeroOrMore false true (by decide) (by decide) (by decide),
    doubled.2.1 (.unqualified "c") ⟨⟨5⟩, .optional, false⟩ (by decide)⟩

end Scopes

end XmlSchema
