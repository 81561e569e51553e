import XmlSchema.Grammar.Rule
import XmlSchema.Table

set_option autoImplicit false

namespace XmlSchema

structure RuleId where
  index : Nat
  deriving DecidableEq, Inhabited, Repr

structure Rule where
  kind : Option Kind
  byName : Table QName RuleId
  byLocalName : Table String RuleId
  wildcard : Option RuleId
  deriving Inhabited

/-- The rules made so far, the kinds that have one, and the rule of free content. -/
structure RuleSet where
  all : Array Rule
  made : Table Kind RuleId
  anything : Option RuleId

namespace RuleSet

def root : RuleId := ⟨0⟩

def outset : RuleSet := ⟨#[default], .empty, none⟩

def rule (rules : RuleSet) (id : RuleId) : Rule := rules.all[id.index]?.getD default

def next (rules : RuleSet) : RuleId := ⟨rules.all.size⟩

def enter (rules : RuleSet) (kind : Kind) : RuleSet :=
  { rules with
    all := rules.all.push { (default : Rule) with kind := some kind }
    made := rules.made.insert kind rules.next }

def link (rules : RuleSet) (source : RuleId) (kind : Kind) (target : RuleId) : RuleSet :=
  { rules with
    all := rules.all.modify source.index fun rule =>
      { rule with
        byName := rule.byName.insert (.inNamespace schemaUri kind.tagName) target
        byLocalName := rule.byLocalName.insert kind.tagName target } }

def free (rules : RuleSet) : RuleSet × RuleId :=
  match rules.anything with
  | some id => (rules, id)
  | none =>
      ({ rules with
        all := rules.all.push { (default : Rule) with wildcard := some rules.next }
        anything := some rules.next }, rules.next)

def linkWildcard (rules : RuleSet) (source target : RuleId) : RuleSet :=
  { rules with
    all := rules.all.modify source.index fun rule => { rule with wildcard := some target } }

def linkFree (rules : RuleSet) (source : RuleId) : RuleSet :=
  rules.free.1.linkWildcard source rules.free.2

def unmade (rules : RuleSet) : Nat :=
  (Kind.every.filter fun kind => !rules.made.contains kind).length

theorem unmade_enter {rules : RuleSet} {kind : Kind} (absent : rules.made.get? kind = none) :
    (rules.enter kind).unmade < rules.unmade := by
  have fewer : (Kind.every.filter fun other => !(rules.enter kind).made.contains other) =
      (Kind.every.filter fun other => !rules.made.contains other).filter (· ≠ kind) := by
    rw [List.filter_filter]
    refine List.filter_congr fun other _ => ?_
    by_cases same : other = kind
    · simp [enter, Table.insert, Table.contains, same]
    · simp [enter, Table.insert, Table.contains, same, Table.get?_put_of_ne _ _ same]
  rw [unmade, fewer]
  exact List.length_filter_lt_length_iff_exists.mpr
    ⟨kind, List.mem_filter.mpr ⟨kind.mem_every, by simp [Table.contains, absent]⟩, by simp⟩

theorem unmade_linkFree (rules : RuleSet) (source : RuleId) :
    (rules.linkFree source).unmade = rules.unmade := by
  unfold linkFree free
  cases rules.anything <;> rfl

mutual

/-- The rule of a kind, made together with the rules it needs unless there is one. -/
def make (rules : RuleSet) (kind : Kind) :
    { made : RuleSet × RuleId // made.1.unmade ≤ rules.unmade } :=
  match absent : rules.made.get? kind with
  | some id => ⟨(rules, id), Nat.le_refl _⟩
  | none =>
      have fewer := unmade_enter absent
      match kind.content with
      | .kinds kinds =>
          let linked := (rules.enter kind).linkAll rules.next kinds
          ⟨(linked, rules.next), Nat.le_trans linked.property (Nat.le_of_lt fewer)⟩
      | .anything =>
          ⟨((rules.enter kind).linkFree rules.next, rules.next),
            Nat.le_trans (Nat.le_of_eq (unmade_linkFree _ _)) (Nat.le_of_lt fewer)⟩
termination_by (rules.unmade, 0)
decreasing_by exact Prod.Lex.left _ _ fewer

def linkAll (rules : RuleSet) (source : RuleId) (kinds : List Kind) :
    { linked : RuleSet // linked.unmade ≤ rules.unmade } :=
  match kinds with
  | [] => ⟨rules, Nat.le_refl _⟩
  | kind :: rest =>
      let made := rules.make kind
      let linked := (made.val.1.link source kind made.val.2).linkAll source rest
      ⟨linked, Nat.le_trans linked.property made.property⟩
termination_by (rules.unmade, kinds.length + 1)
decreasing_by
  · exact Prod.Lex.right _ (Nat.succ_pos _)
  · exact Prod.Lex.right' _ made.property (Nat.lt_succ_self _)

end

def build : RuleSet := outset.linkAll root [.schema]

def child (rules : RuleSet) (id : RuleId) (name : QName) : Option RuleId :=
  let rule := rules.rule id
  ((rule.byName.get? name).or (rule.byLocalName.get? name.localName)).or rule.wildcard

def follow (rules : RuleSet) (start : Option RuleId) (path : List QName) : Option RuleId :=
  path.foldl (fun id name => id.bind fun id => rules.child id name) start

def ruleOf (rules : RuleSet) (kind : Kind) : Option RuleId := rules.made.get? kind

end RuleSet

end XmlSchema
