import Mathlib.Data.List.Induction
import XmlSchema.Store

set_option autoImplicit false

namespace XmlSchema

/-- Written out and read again, the URL is what it was. -/
def Url.Restored (url : Url) : Prop := Url.ofText url.text = .ok url

namespace Store

inductive Entry where
  | document (written : String) (bytes : List UInt8)
  | redirect (written target : String)
  deriving DecidableEq, Repr

def add (store : Store) : Entry -> Store
  | .document written bytes => store.insert written bytes
  | .redirect written target => store.redirect written target

def ofEntries (entries : List Entry) : Store := entries.foldl add .empty

/-- So many redirects in a row lead from one URL to another. -/
inductive Leads (store : Store) : Nat -> String -> String -> Prop where
  | here (url : String) : Leads store 0 url url
  | next {count : Nat} {url via last : String} (first : store.redirects.get? url = some via)
      (further : Leads store count via last) : Leads store (count + 1) url last

def Exceeds (store : Store) (url : String) : Prop :=
  ∃ last, store.Leads (maxRedirects + 1) url last

def Normal (text : String) : Prop := ∀ url, Url.ofText text = .ok url -> url.text = text

variable {store : Store} {url : Url} {fetched : Fetched} {entries : List Entry}

theorem normal_of_restored (restored : url.Restored) : Normal url.text := by
  intro parsed read
  cases restored.symm.trans read
  rfl

theorem normal_key {written : String}
    (restored : ∀ url, Url.ofText written = .ok url -> url.Restored) : Normal (key written) := by
  unfold key
  split
  next url read => exact normal_of_restored (restored url read)
  next fault unread =>
    intro url read
    cases unread.symm.trans read

theorem follow_of_ended {text : String} (ended : store.redirects.get? text = none) (hops : Nat) :
    store.follow hops text = text := by
  cases hops with
  | zero => rfl
  | succ hops => rw [follow, ended]

/-- Following stops at a redirect only where it is cut. -/
theorem redirected_follow_iff (store : Store) (hops : Nat) (text : String) :
    store.redirects.get? (store.follow hops text) ≠ none ↔
      ∃ last, store.Leads (hops + 1) text last := by
  induction hops generalizing text with
  | zero =>
    constructor
    · intro redirected
      obtain ⟨via, first⟩ := Option.ne_none_iff_exists'.mp redirected
      exact ⟨via, .next first (.here via)⟩
    · rintro ⟨last, _ | ⟨first, -⟩⟩
      exact Option.ne_none_iff_exists'.mpr ⟨_, first⟩
  | succ hops ih =>
    cases redirected : store.redirects.get? text with
    | none =>
      rw [follow_of_ended redirected]
      refine ⟨fun more => absurd redirected more, ?_⟩
      rintro ⟨last, _ | ⟨first, -⟩⟩
      cases redirected.symm.trans first
    | some via =>
      rw [follow, redirected]
      refine (ih via).trans ⟨fun ⟨last, further⟩ => ⟨last, .next redirected further⟩, ?_⟩
      rintro ⟨last, _ | ⟨first, further⟩⟩
      cases redirected.symm.trans first
      exact ⟨last, further⟩

theorem normal_follow (targets : ∀ asked next, store.redirects.get? asked = some next -> Normal next)
    (hops : Nat) {text : String} (normal : Normal text) : Normal (store.follow hops text) := by
  induction hops generalizing text with
  | zero => exact normal
  | succ hops ih =>
    unfold follow
    split
    next next redirected => exact ih (targets text next redirected)
    next => exact normal

theorem fetch_eq_ok_iff :
    store.fetch url = .ok fetched ↔
      store.documents.get? (store.follow maxRedirects url.text) = some fetched.bytes ∧
        Url.ofText (store.follow maxRedirects url.text) = .ok fetched.canonical := by
  unfold fetch
  dsimp only
  obtain ⟨bytes, canonical⟩ := fetched
  split
  next missing => simp [missing]
  next there found =>
    split
    next fault unread => simp [unread]
    next parsed read => simp [found, read]

theorem redirect_mem {entries : List Entry} {asked next : String}
    (redirected : (ofEntries entries).redirects.get? asked = some next) :
    ∃ written target, .redirect written target ∈ entries ∧ next = key target := by
  -- by induction from the end: the last entry for a URL is the one that counts
  induction entries using List.reverseRecOn with
  | nil => cases redirected
  | append_singleton before entry ih =>
    have further (there : (ofEntries before).redirects.get? asked = some next) :
        ∃ written target, .redirect written target ∈ before ++ [entry] ∧ next = key target := by
      obtain ⟨written, target, member, same⟩ := ih there
      exact ⟨written, target, List.mem_append_left _ member, same⟩
    have last : ofEntries (before ++ [entry]) = (ofEntries before).add entry := by
      simp [ofEntries]
    rw [last] at redirected
    cases entry with
    | document written bytes => exact further redirected
    | redirect written target =>
      by_cases same : asked = key written
      next =>
        subst same
        have found := (Table.get?_put_self ..).symm.trans redirected
        exact ⟨written, target, by simp, (Option.some.inj found).symm⟩
      next => exact further ((Table.get?_put_of_ne _ _ same).symm.trans redirected)

/-- Whatever documents and redirects a store holds: the URL that a document is reported under is not
redirected exactly if no more redirects in a row start at the URL asked for than a store follows. In
that case the same document is found there, under that URL. -/
theorem fetch_canonical (restored : url.Restored)
    (targets : ∀ written target, .redirect written target ∈ entries ->
      ∀ read, Url.ofText target = .ok read -> read.Restored)
    (found : (ofEntries entries).fetch url = .ok fetched) :
    ((ofEntries entries).redirects.get? fetched.canonical.text = none ↔
        ¬ (ofEntries entries).Exceeds url.text) ∧
      (¬ (ofEntries entries).Exceeds url.text ->
        (ofEntries entries).fetch fetched.canonical = .ok fetched) := by
  obtain ⟨there, read⟩ := fetch_eq_ok_iff.mp found
  have normal : Normal ((ofEntries entries).follow maxRedirects url.text) := by
    refine normal_follow (fun asked next redirected => ?_) maxRedirects (normal_of_restored restored)
    obtain ⟨written, target, member, rfl⟩ := redirect_mem redirected
    exact normal_key (targets written target member)
  have written : fetched.canonical.text = (ofEntries entries).follow maxRedirects url.text :=
    normal _ read
  have ends : (ofEntries entries).redirects.get? fetched.canonical.text = none ↔
      ¬ (ofEntries entries).Exceeds url.text := by
    rw [written, Exceeds, ← redirected_follow_iff, Decidable.not_not]
  refine ⟨ends, fun short => fetch_eq_ok_iff.mpr ?_⟩
  rw [follow_of_ended (ends.mpr short), written]
  exact ⟨there, read⟩

def numbered (n : Nat) : String := s!"m:{n}"

def chain (redirects place : Nat) : List Entry :=
  .document (numbered place) [1] ::
    (List.range redirects).map fun n => .redirect (numbered n) (numbered (n + 1))

theorem fetch_canonical_sixteen :
    ∃ url fetched, url.text = numbered 0 ∧ fetched.canonical.text = numbered 16 ∧
      (ofEntries (chain 16 16)).fetch url = .ok fetched ∧
      (ofEntries (chain 16 16)).redirects.get? fetched.canonical.text = none ∧
      (ofEntries (chain 16 16)).fetch fetched.canonical = .ok fetched := by
  have restored : ∀ n ≤ 16, ∀ read ∈ (Url.ofText (numbered n)).toOption,
      Url.ofText read.text = .ok read := by decide +kernel
  have targets : ∀ written target, .redirect written target ∈ chain 16 16 ->
      ∀ read, Url.ofText target = .ok read -> read.Restored := by
    intro written target member read reads
    obtain ⟨n, inside, same⟩ : ∃ n ∈ List.range 16,
        Entry.redirect (numbered n) (numbered (n + 1)) = .redirect written target := by
      simpa [chain] using member
    cases same
    refine restored (n + 1) (List.mem_range.mp inside) read ?_
    rw [reads]
    rfl
  obtain ⟨url, fetched, first, last, again, found, ended⟩ :
      ∃ url fetched, url.text = numbered 0 ∧ fetched.canonical.text = numbered 16 ∧
        Url.ofText url.text = .ok url ∧ (ofEntries (chain 16 16)).fetch url = .ok fetched ∧
        (ofEntries (chain 16 16)).redirects.get? fetched.canonical.text = none :=
    ⟨(Url.ofText (numbered 0)).toOption.getD default,
      ⟨[1], (Url.ofText (numbered 16)).toOption.getD default⟩, by decide +kernel⟩
  obtain ⟨ends, leads⟩ := fetch_canonical again targets found
  exact ⟨url, fetched, first, last, found, ended, leads (ends.mp ended)⟩

theorem fetch_canonical_cut :
    ∃ url fetched, (ofEntries (chain 17 16)).fetch url = .ok fetched ∧
      (ofEntries (chain 17 16)).redirects.get? fetched.canonical.text ≠ none ∧
      (ofEntries (chain 17 16)).fetch fetched.canonical ≠ .ok fetched :=
  ⟨(Url.ofText (numbered 0)).toOption.getD default,
    ⟨[1], (Url.ofText (numbered 16)).toOption.getD default⟩, by decide +kernel⟩

end Store

end XmlSchema
