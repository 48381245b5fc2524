import Federation.Metadata.Sharing
import Federation.Proofs.Metadata.Trust

/-!
# What tasks are answered

However the calls of tasks, the loads and the replacements of the source interleave, a task that
resolves is answered what the document in force gave when it took its snapshot.

    Run s₀ trace s  →  Step s (k takes) s'  →  Run s' rest t  →  t.tasks k = answered q answer  →
      answer = s.shared.resolver.trusted q                                       (answered_of_takes)

- `Coherent` says that what a snapshot keeps follows from its own document, and `Valid` that what a
  task is about to keep does so too. Every step preserves it.
- `Follows` is the invariant of one task from the moment it takes a snapshot.
- `run_resolve`, `run_refresh` and `run_refreshIfStale` are the calls that nobody interrupts, and do
  what the resolver does.
-/

namespace Federation.Metadata

open Federation.Saml Federation.Time
open Federation.Crypto (KeyTransport)

/-! ## What is shared -/

namespace Shared

/-- Every answer that is kept follows from the document it is kept beside. -/
def Coherent (m : Shared) : Prop :=
  ∀ (number : Nat) (s : Snapshot), m.snapshots[number]? = some s →
    ∀ q e, s.cache.lookup q = some e → s.document.answer m.defaultTransport q = .ok e

theorem getElem?_documents (m : Shared) (number : Nat) (s : Snapshot)
    (h : m.snapshots[number]? = some s) : m.documents[number]? = some s.document := by
  unfold documents
  rw [List.getElem?_map, h]
  rfl

theorem documents_install (m : Shared) (d : Document) (clock : Span) :
    (m.install d clock).documents = m.documents ++ [d] := by
  unfold documents install
  rw [List.map_append]
  rfl

theorem documents_keep (m : Shared) (number : Nat) (q : TrustQuery) (e : TrustedEntity) :
    (m.keep number q e).documents = m.documents := by
  unfold documents keep
  apply List.ext_getElem?
  intro i
  rw [List.getElem?_map, List.getElem?_map, List.getElem?_modify]
  cases m.snapshots[i]? with
  | none => rfl
  | some s =>
    show some (if number = i then _ else s).document = some s.document
    split <;> rfl

theorem document_resolver (m : Shared) : m.resolver.document = match m.documents.getLast? with
    | some d => .ok d
    | none => .error (.trustResolution "metadata has not been loaded") := by
  unfold Resolver.document Resolver.current resolver documents
  rw [List.getLast?_map]
  cases m.snapshots.getLast? <;> rfl

/-- What is answered straight away depends on the last document alone. -/
theorem trusted_resolver (m : Shared) (q : TrustQuery) (d : Document)
    (h : m.documents.getLast? = some d) :
    m.resolver.trusted q = d.answer m.defaultTransport q := by
  unfold Resolver.trusted
  rw [document_resolver, h]
  rfl

theorem trusted_of_documents (m m' : Shared) (hdocuments : m'.documents = m.documents)
    (hdefault : m'.defaultTransport = m.defaultTransport) (q : TrustQuery) :
    m'.resolver.trusted q = m.resolver.trusted q := by
  have hdocument : m'.resolver.document = m.resolver.document := by
    rw [document_resolver, document_resolver, hdocuments]
  have hdefault : m'.resolver.defaultTransport = m.resolver.defaultTransport := hdefault
  unfold Resolver.trusted
  rw [hdocument, hdefault]

/-- The snapshot in force is the last one. -/
theorem current_eq_ok (m : Shared) (s : Snapshot) (h : m.resolver.current = .ok s) :
    m.snapshots ≠ [] ∧ m.snapshots[m.snapshots.length - 1]? = some s := by
  have hlast : m.snapshots.getLast? = some s := by
    unfold Resolver.current at h
    split at h
    · next s' hs' =>
      cases h
      exact hs'
    · cases h
  refine ⟨?_, List.getLast?_eq_getElem? ▸ hlast⟩
  intro hempty
  rw [hempty] at hlast
  cases hlast

/-- Without the condition every failure is reported. -/
theorem report_false (m : Shared) (result : Except Failure Unit) :
    m.report false result = result.map fun _ => true := by
  cases result <;> rfl

theorem resolver_install (m : Shared) (d : Document) (clock : Span) :
    (m.install d clock).resolver =
      { m.resolver with snapshot := some { document := d, loadedAt := clock } } := by
  unfold resolver install
  rw [List.getLast?_append]
  rfl

/-- The same with another snapshot in the place of one. -/
def replace (m : Shared) (number : Nat) (s : Snapshot) : Shared :=
  { m with snapshots := m.snapshots.set number s }

section
variable (m : Shared) (number : Nat) (s : Snapshot) (hs : m.snapshots[number]? = some s)
include hs

theorem replace_self : m.replace number s = m := by
  obtain ⟨hnumber, rfl⟩ := List.getElem?_eq_some_iff.1 hs
  unfold replace
  rw [List.set_getElem_self]

theorem keep_eq_replace (q : TrustQuery) (e : TrustedEntity) :
    m.keep number q e = m.replace number { s with cache := (q, e) :: s.cache } := by
  have hsame : (m.snapshots.modify number fun s => { s with cache := (q, e) :: s.cache })
      = m.snapshots.set number { s with cache := (q, e) :: s.cache } := by
    apply List.ext_getElem?
    intro i
    rw [List.getElem?_modify, List.getElem?_set']
    by_cases hi : number = i
    · subst hi
      rw [if_pos rfl, hs]
      simp
    · rw [if_neg hi]
      simp [hi]
  unfold keep replace
  rw [hsame]

end

theorem resolver_replace (m : Shared) (s s' : Snapshot) (h : m.resolver.current = .ok s) :
    (m.replace (m.snapshots.length - 1) s').resolver = { m.resolver with snapshot := some s' } := by
  obtain ⟨-, hlast⟩ := m.current_eq_ok s h
  obtain ⟨hnumber, -⟩ := List.getElem?_eq_some_iff.1 hlast
  unfold resolver replace
  simp only [List.getLast?_eq_getElem?, List.length_set, List.getElem?_set_self hnumber]

/-- A call that nobody interrupts is answered so, whether or not the answer was kept. -/
theorem Coherent.resolve (m : Shared) (h : m.Coherent) (q : TrustQuery) :
    (m.resolver.resolve q).1 = m.resolver.trusted q := by
  have hlast : m.resolver.snapshot = m.snapshots[m.snapshots.length - 1]? :=
    List.getLast?_eq_getElem?
  unfold Resolver.resolve Resolver.trusted Resolver.document Resolver.current
  cases hs : m.resolver.snapshot with
  | none => rfl
  | some s =>
    show (s.resolve m.defaultTransport q).1 = s.document.answer m.defaultTransport q
    unfold Snapshot.resolve
    cases hcache : s.cache.lookup q with
    | some e => exact (h _ s (hlast ▸ hs) q e hcache).symm
    | none =>
      unfold Document.answer
      dsimp only
      cases s.document.trusted m.defaultTransport q.entityId q.role q.protocol <;> rfl

end Shared

/-! ## Actions -/

namespace Task

/-- What a task is about to keep follows from the document of its snapshot. -/
def Sound (m : Shared) : Task → Prop
  | .keeping q number e =>
    ∃ d, m.documents[number]? = some d ∧ d.answer m.defaultTransport q = .ok e
  | _ => True

/-- A task that is to be answered `expected`: it has a snapshot whose document gives that, or the
answer itself. -/
def Follows (m : Shared) (q : TrustQuery) (expected : Except Failure TrustedEntity) : Task → Prop
  | .holding q' number =>
    q' = q ∧ ∃ d, m.documents[number]? = some d ∧ d.answer m.defaultTransport q = expected
  | .keeping q' _ e => q' = q ∧ expected = .ok e
  | .answered q' answer => q' = q ∧ answer = expected
  | _ => False

theorem answer_of_follows (m : Shared) (q q' : TrustQuery)
    (expected : Except Failure TrustedEntity) (number : Nat) (s : Snapshot)
    (hs : m.snapshots[number]? = some s) (h : (holding q' number).Follows m q expected) :
    q' = q ∧ s.document.answer m.defaultTransport q = expected := by
  obtain ⟨hq, d, hd, hanswer⟩ := h
  rw [m.getElem?_documents number s hs] at hd
  cases hd
  exact ⟨hq, hanswer⟩

/-- A task that has not taken a snapshot, and is not answered for want of one. -/
def Untaken : Task → Prop
  | .holding .. | .keeping .. | .answered .. => False
  | _ => True

end Task

namespace Act

variable {m m' : Shared} {t t' : Task} {a : Action}

theorem defaultTransport (h : Act m t a t' m') : m'.defaultTransport = m.defaultTransport := by
  cases h <;> rfl

theorem documents (h : Act m t a t' m') :
    m'.documents = m.documents ++ a.document?.toList := by
  cases h with
  | keeps q number e => exact (m.documents_keep number q e).trans (List.append_nil _).symm
  | loads ifStale d clock => exact m.documents_install d clock
  | _ => exact (List.append_nil _).symm

/-- A document that was there keeps its number. -/
theorem getElem?_documents (h : Act m t a t' m') (number : Nat) (d : Document)
    (hd : m.documents[number]? = some d) : m'.documents[number]? = some d := by
  obtain ⟨hnumber, -⟩ := List.getElem?_eq_some_iff.1 hd
  rw [h.documents, List.getElem?_append_left hnumber, hd]

theorem coherent (h : Act m t a t' m') (hm : m.Coherent) (ht : t.Sound m) : m'.Coherent := by
  cases h with
  | keeps q number e =>
    obtain ⟨d, hd, hanswer⟩ := ht
    intro i s' hs' q' e' hcache
    have hs' : (m.snapshots.modify number fun s => { s with cache := (q, e) :: s.cache })[i]?
        = some s' := hs'
    rw [List.getElem?_modify] at hs'
    obtain ⟨s, hs, rfl⟩ := Option.map_eq_some_iff.1 hs'
    by_cases hi : number = i
    · -- the new entry comes first, so only an older one with another query is still found
      rw [if_pos hi] at hcache ⊢
      rw [List.lookup_cons] at hcache
      by_cases hq : q' = q
      · rw [hi, m.getElem?_documents i s hs] at hd
        rw [hq, beq_self_eq_true] at hcache
        cases hd
        cases hcache
        exact hq ▸ hanswer
      · rw [beq_eq_false_iff_ne.2 hq] at hcache
        exact hm i s hs q' e' hcache
    · rw [if_neg hi] at hcache ⊢
      exact hm i s hs q' e' hcache
  | loads ifStale d clock =>
    intro i s hs q e hcache
    have hs : (m.snapshots ++ [{ document := d, loadedAt := clock }])[i]? = some s := hs
    rw [List.getElem?_append] at hs
    split at hs
    · exact hm i s hs q e hcache
    · rw [List.getElem?_singleton] at hs
      split at hs
      · cases hs
        cases hcache
      · cases hs
  | _ => exact hm

theorem sound (h : Act m t a t' m') : t'.Sound m' := by
  cases h with
  | derives q number s e hs hcache hanswer => exact ⟨_, m.getElem?_documents number s hs, hanswer⟩
  | _ => trivial

/-- What others do to what is shared is nothing to a task. -/
theorem sound_other (h : Act m t a t' m') (u : Task) (hu : u.Sound m) : u.Sound m' := by
  cases u with
  | keeping q number e =>
    obtain ⟨d, hd, hanswer⟩ := hu
    exact ⟨d, h.getElem?_documents number d hd, h.defaultTransport ▸ hanswer⟩
  | _ => trivial

theorem follows_other (h : Act m t a t' m') (q : TrustQuery)
    (expected : Except Failure TrustedEntity) (u : Task) (hu : u.Follows m q expected) :
    u.Follows m' q expected := by
  cases u with
  | holding q' number =>
    obtain ⟨hq, d, hd, hanswer⟩ := hu
    exact ⟨hq, d, h.getElem?_documents number d hd, h.defaultTransport ▸ hanswer⟩
  | _ => exact hu

/-- A task goes on to the answer that its snapshot gives, also if that was kept. -/
theorem follows (h : Act m t a t' m') (hm : m.Coherent) (q : TrustQuery)
    (expected : Except Failure TrustedEntity) (ht : t.Follows m q expected) :
    t'.Follows m' q expected := by
  cases h with
  | finds q' number s e hs hcache =>
    obtain ⟨rfl, hanswer⟩ := Task.answer_of_follows m q q' expected number s hs ht
    exact ⟨rfl, (hm number s hs q' e hcache).symm.trans hanswer⟩
  | derives q' number s e hs hcache hderived =>
    obtain ⟨rfl, hanswer⟩ := Task.answer_of_follows m q q' expected number s hs ht
    exact ⟨rfl, hanswer.symm.trans hderived⟩
  | refuses q' number s f hs hcache hrefused =>
    obtain ⟨rfl, hanswer⟩ := Task.answer_of_follows m q q' expected number s hs ht
    exact ⟨rfl, hrefused.symm.trans hanswer⟩
  | keeps q' number e => exact ⟨ht.1, ht.2.symm⟩
  | _ => exact ht.elim

/-- A task that takes its snapshot is to be answered what the document in force gives. -/
theorem follows_of_takes (h : Act m t .takes t' m') :
    ∃ q, t'.Follows m' q (m.resolver.trusted q) := by
  cases h with
  | takes q hsnapshots =>
    refine ⟨q, rfl, ?_⟩
    obtain ⟨s, hs⟩ := Option.isSome_iff_exists.1 (List.getLast?_isSome.2 hsnapshots)
    have hlast : m.snapshots[m.snapshots.length - 1]? = some s := List.getLast?_eq_getElem? ▸ hs
    have hd : m.documents.getLast? = some s.document := by
      unfold Shared.documents
      rw [List.getLast?_map, hs]
      rfl
    exact ⟨s.document, m.getElem?_documents _ s hlast, (m.trusted_resolver q _ hd).symm⟩
  | lacks q f hcurrent =>
    refine ⟨q, rfl, ?_⟩
    unfold Resolver.trusted Resolver.document
    rw [hcurrent]
    rfl

/-- A refresh that is only made if need be reports a failure only where there is no document. -/
theorem documents_of_reports {f : Failure} (h : Act m t (.reports true (.error f)) t' m') :
    m.documents = [] := by
  cases h with
  | reports _ result _ hreport =>
    cases result with
    | ok u => cases hreport
    | error g =>
      unfold Shared.report at hreport
      cases hsnapshot : m.resolver.snapshot with
      | some s =>
        rw [hsnapshot] at hreport
        cases hreport
      | none =>
        have hempty : m.snapshots = [] := List.getLast?_eq_none_iff.1 hsnapshot
        exact congrArg (List.map _) hempty

theorem untaken (h : Act m t a t' m') (ha : a ≠ .takes) (ht : t.Untaken) : t'.Untaken := by
  cases h with
  | takes | lacks => exact absurd rfl ha
  | finds | derives | refuses | keeps => exact ht.elim
  | _ => trivial

end Act

namespace System

/-! ## Steps -/

/-- What is kept, and what tasks are about to keep, follows from the documents. -/
structure Valid (s : System) : Prop where
  coherent : s.shared.Coherent
  sound : ∀ k, (s.tasks k).Sound s.shared

theorem put_self (s : System) (k : Nat) (t : Task) (m : Shared) : (s.put k t m).tasks k = t :=
  if_pos rfl

theorem put_other (s : System) (k j : Nat) (t : Task) (m : Shared) (h : j ≠ k) :
    (s.put k t m).tasks j = s.tasks j :=
  if_neg h

section
variable {s t : System} {e : Event} (h : Step s e t)
include h

theorem step_defaultTransport : t.shared.defaultTransport = s.shared.defaultTransport := by
  cases h with
  | replaced source => rfl
  | acted k a u m hact => exact hact.defaultTransport

theorem step_documents : t.shared.documents = s.shared.documents ++ e.document?.toList := by
  cases h with
  | replaced source => exact (List.append_nil _).symm
  | acted k a u m hact => exact hact.documents

theorem step_valid (hs : s.Valid) : t.Valid := by
  cases h with
  | replaced source => exact ⟨hs.coherent, hs.sound⟩
  | acted k a u m hact =>
    refine ⟨hact.coherent hs.coherent (hs.sound k), fun j => ?_⟩
    by_cases hj : j = k
    · rw [hj, put_self]
      exact hact.sound
    · rw [put_other _ _ _ _ _ hj]
      exact hact.sound_other (s.tasks j) (hs.sound j)

theorem step_follows (hs : s.Valid) (k : Nat) (q : TrustQuery)
    (expected : Except Failure TrustedEntity) (hk : (s.tasks k).Follows s.shared q expected) :
    (t.tasks k).Follows t.shared q expected := by
  cases h with
  | replaced source => exact hk
  | acted j a u m hact =>
    by_cases hj : k = j
    · subst hj
      rw [put_self]
      exact hact.follows hs.coherent q expected hk
    · rw [put_other _ _ _ _ _ hj]
      exact hact.follows_other q expected (s.tasks k) hk

theorem step_untaken (k : Nat) (he : e ≠ .acted k .takes) (hk : (s.tasks k).Untaken) :
    (t.tasks k).Untaken := by
  cases h with
  | replaced source => exact hk
  | acted j a u m hact =>
    by_cases hj : k = j
    · subst hj
      rw [put_self]
      refine hact.untaken (fun ha => he ?_) hk
      rw [ha]
    · rw [put_other _ _ _ _ _ hj]
      exact hk

end

/-! ## Runs -/

section
variable {s t : System} {events : List Event} (h : Run s events t)
include h

theorem run_defaultTransport : t.shared.defaultTransport = s.shared.defaultTransport := by
  induction h with
  | nil s => rfl
  | cons hstep _ ih => exact ih.trans (step_defaultTransport hstep)

theorem run_documents : t.shared.documents = s.shared.documents ++ loads events := by
  induction h with
  | nil s => exact (List.append_nil _).symm
  | @cons s s' t e rest hstep _ ih =>
    rw [ih, step_documents hstep, List.append_assoc]
    unfold loads
    cases he : e.document? with
    | none => rw [List.filterMap_cons_none he]; rfl
    | some d => rw [List.filterMap_cons_some he]; rfl

theorem run_valid (hs : s.Valid) : t.Valid := by
  induction h with
  | nil s => exact hs
  | cons hstep _ ih => exact ih (step_valid hstep hs)

theorem run_follows (hs : s.Valid) (k : Nat) (q : TrustQuery)
    (expected : Except Failure TrustedEntity) (hk : (s.tasks k).Follows s.shared q expected) :
    (t.tasks k).Follows t.shared q expected := by
  induction h with
  | nil s => exact hk
  | cons hstep _ ih => exact ih (step_valid hstep hs) (step_follows hstep hs k q expected hk)

/-- A task that has been answered took its snapshot at some moment of the run. -/
theorem exists_takes (k : Nat) (hs : (s.tasks k).Untaken) (ht : ¬ (t.tasks k).Untaken) :
    ∃ before u u' after, Run s before u ∧ Step u (.acted k .takes) u' ∧ Run u' after t ∧
      events = before ++ .acted k .takes :: after := by
  induction h with
  | nil s => exact absurd hs ht
  | @cons s s' t e rest hstep hrest ih =>
    by_cases he : e = .acted k .takes
    · subst he
      exact ⟨[], s, s', rest, .nil s, hstep, hrest, rfl⟩
    · obtain ⟨before, u, u', after, hbefore, htakes, hafter, hrest⟩ :=
        ih (step_untaken hstep k he hs) ht
      exact ⟨e :: before, u, u', after, .cons hstep hbefore, htakes, hafter, by rw [hrest]; rfl⟩

end

theorem loads_append (events events' : List Event) :
    loads (events ++ events') = loads events ++ loads events' :=
  List.filterMap_append

/-- A task is answered what the document gave that was in force when it took its snapshot. -/
theorem answered_of_takes {s s' t : System} {rest : List Event} {k : Nat} (hs : s.Valid)
    (htakes : Step s (.acted k .takes) s') (hrest : Run s' rest t) (q : TrustQuery)
    (answer : Except Failure TrustedEntity) (ht : t.tasks k = .answered q answer) :
    answer = s.shared.resolver.trusted q := by
  have hs' := step_valid htakes hs
  cases htakes with
  | acted _ _ u m hact =>
    obtain ⟨q', hu⟩ := hact.follows_of_takes
    have hk : ((s.put k u m).tasks k).Follows m q' (s.shared.resolver.trusted q') := by
      rw [put_self]
      exact hu
    have hfollows := run_follows hrest hs' k q' _ hk
    rw [ht] at hfollows
    obtain ⟨rfl, hanswer⟩ := hfollows
    exact hanswer

/-- A task that is called after a document was put in force is answered from that document or from
one that was put in force later. -/
theorem answered_of_ready {s t : System} {rest : List Event} {k : Nat} (hs : s.Valid)
    (hk : s.tasks k = .ready) (hrest : Run s rest t) (q : TrustQuery)
    (answer : Except Failure TrustedEntity) (ht : t.tasks k = .answered q answer) (d : Document)
    (hd : s.shared.documents.getLast? = some d) :
    ∃ d' ∈ d :: loads rest, answer = d'.answer s.shared.defaultTransport q := by
  have hbegun : (s.tasks k).Untaken := by
    rw [hk]
    trivial
  have hdone : ¬ (t.tasks k).Untaken := by
    rw [ht]
    exact id
  obtain ⟨before, u, u', after, hbefore, htakes, hafter, hevents⟩ :=
    exists_takes hrest k hbegun hdone
  -- what was in force when it took its snapshot
  obtain ⟨d', hd', hlast⟩ : ∃ d' ∈ d :: loads before, u.shared.documents.getLast? = some d' := by
    rw [run_documents hbefore, List.getLast?_append, hd]
    cases hloads : (loads before).getLast? with
    | none => exact ⟨d, List.mem_cons_self, rfl⟩
    | some d' => exact ⟨d', List.mem_cons_of_mem d (List.mem_of_getLast? hloads), rfl⟩
  refine ⟨d', ?_, ?_⟩
  · rw [hevents, loads_append]
    exact List.mem_append_left _ hd'
  · rw [answered_of_takes (run_valid hbefore hs) htakes hafter q answer ht,
      ← run_defaultTransport hbefore]
    exact u.shared.trusted_resolver q d' hlast

/-! ## Calls that nobody interrupts -/

theorem Run.act {s t : System} {k : Nat} {a : Action} {u u' : Task} {m : Shared}
    {rest : List Event} (h : Act s.shared u a u' m) (hk : s.tasks k = u)
    (hrest : Run (s.put k u' m) rest t) : Run s (.acted k a :: rest) t :=
  .cons (.acted k a u' m (hk ▸ h)) hrest

/-- A task that has a snapshot, in force or not, does with it what `Snapshot.resolve` does. -/
theorem run_search (s : System) (k : Nat) (q : TrustQuery) (number : Nat) (snapshot : Snapshot)
    (hk : s.tasks k = .holding q number) (hs : s.shared.snapshots[number]? = some snapshot) :
    ∃ events t, Run s events t ∧
      t.tasks k = .answered q (snapshot.resolve s.shared.defaultTransport q).1 ∧
      t.shared = s.shared.replace number (snapshot.resolve s.shared.defaultTransport q).2 := by
  unfold Snapshot.resolve
  cases hcache : snapshot.cache.lookup q with
  | some e =>
    exact ⟨_, _, .act (.finds q number snapshot e hs hcache) hk <| .nil _, put_self ..,
      (s.shared.replace_self number snapshot hs).symm⟩
  | none =>
    simp only
    cases hanswer : snapshot.document.trusted s.shared.defaultTransport q.entityId q.role
        q.protocol with
    | ok e =>
      exact ⟨_, _, .act (.derives q number snapshot e hs hcache hanswer) hk <|
        .act (.keeps q number e) (put_self ..) <| .nil _, put_self ..,
        s.shared.keep_eq_replace number snapshot hs q e⟩
    | error f =>
      exact ⟨_, _, .act (.refuses q number snapshot f hs hcache hanswer) hk <| .nil _, put_self ..,
        (s.shared.replace_self number snapshot hs).symm⟩

/-- A call to resolve does what `Resolver.resolve` does. -/
theorem run_resolve (s : System) (k : Nat) (hk : s.tasks k = .ready) (q : TrustQuery) :
    ∃ events t, Run s events t ∧ t.tasks k = .answered q (s.shared.resolver.resolve q).1 ∧
      t.shared.resolver = (s.shared.resolver.resolve q).2 := by
  unfold Resolver.resolve
  cases hcurrent : s.shared.resolver.current with
  | error f =>
    exact ⟨_, _, .act (.asks q) hk <| .act (.lacks q f hcurrent) (put_self ..) <| .nil _,
      put_self .., rfl⟩
  | ok snapshot =>
    obtain ⟨hne, hlast⟩ := s.shared.current_eq_ok snapshot hcurrent
    let asking := s.put k (.asking q) s.shared
    obtain ⟨events, t, hrun, ht, hshared⟩ :=
      run_search (asking.put k (.holding q (s.shared.snapshots.length - 1)) s.shared) k q _ snapshot
        (put_self ..) hlast
    refine ⟨_, t, .act (.asks q) hk <| .act (.takes q hne) (put_self ..) hrun, ht, ?_⟩
    rw [hshared]
    exact s.shared.resolver_replace snapshot _ hcurrent

/-- A task whose turn it is to load. -/
theorem run_load (s : System) (k : Nat) (ifStale : Bool) (hk : s.tasks k = .waiting ifStale)
    (hfree : s.shared.locked = false) (clock : Span) :
    ∃ events t, Run s events t ∧
      t.tasks k = .refreshed ifStale
        (s.shared.report ifStale (s.shared.resolver.refresh s.shared.source clock).1) ∧
      t.shared.resolver = (s.shared.resolver.refresh s.shared.source clock).2 := by
  unfold Resolver.refresh
  cases hload : s.shared.resolver.finish s.shared.source with
  | ok d =>
    refine ⟨_, _, .act (.locks ifStale hfree) hk <| .act (.reads ifStale) (put_self ..) <|
      .act (.loads ifStale d clock) ?_ <| .act (.reports ifStale (.ok ()) _ rfl) (put_self ..) <|
      .nil _, put_self .., s.shared.resolver_install d clock⟩
    rw [put_self, ← hload]
    rfl
  | error f =>
    refine ⟨_, _, .act (.locks ifStale hfree) hk <| .act (.reads ifStale) (put_self ..) <|
      .act (.fails ifStale f) ?_ <| .act (.reports ifStale (.error f) _ rfl) (put_self ..) <|
      .nil _, put_self .., rfl⟩
    rw [put_self, ← hload]
    rfl

/-- A call to refresh does what `Resolver.refresh` does. -/
theorem run_refresh (s : System) (k : Nat) (hk : s.tasks k = .ready)
    (hfree : s.shared.locked = false) (clock : Span) :
    ∃ events t, Run s events t ∧
      t.tasks k = .refreshed false
        ((s.shared.resolver.refresh s.shared.source clock).1.map fun _ => true) ∧
      t.shared.resolver = (s.shared.resolver.refresh s.shared.source clock).2 := by
  obtain ⟨events, t, hrun, ht, hresolver⟩ :=
    run_load (s.put k (.waiting false) s.shared) k false (put_self ..) hfree clock
  exact ⟨_, t, .act .calls hk hrun,
    ht.trans (congrArg (Task.refreshed false) (s.shared.report_false _)), hresolver⟩

/-- A call to refresh if need be does what `Resolver.refreshIfStale` does. -/
theorem run_refreshIfStale (s : System) (k : Nat) (hk : s.tasks k = .ready)
    (hfree : s.shared.locked = false) (clock : Span) :
    ∃ events t, Run s events t ∧
      t.tasks k = .refreshed true (s.shared.resolver.refreshIfStale s.shared.source clock).1 ∧
      t.shared.resolver = (s.shared.resolver.refreshIfStale s.shared.source clock).2 := by
  unfold Resolver.refreshIfStale
  cases hstale : s.shared.resolver.isStale clock with
  | false => exact ⟨_, _, .act (.callsFresh clock hstale) hk <| .nil _, put_self .., rfl⟩
  | true =>
    obtain ⟨events, t, hrun, ht, hresolver⟩ :=
      run_load (s.put k (.waiting true) s.shared) k true (put_self ..) hfree clock
    have ht : t.tasks k = .refreshed true
      (s.shared.report true (s.shared.resolver.refresh s.shared.source clock).1) := ht
    have hresolver : t.shared.resolver = (s.shared.resolver.refresh s.shared.source clock).2 :=
      hresolver
    refine ⟨_, t, .act (.callsStale clock hstale) hk hrun, ?_⟩
    rw [if_pos rfl, ht, hresolver]
    unfold Shared.report
    cases s.shared.resolver.refresh s.shared.source clock with
    | mk result resolver =>
      cases result with
      | ok u => exact ⟨rfl, rfl⟩
      | error f => cases s.shared.resolver.snapshot <;> exact ⟨rfl, rfl⟩

/-! ## Main result -/

theorem valid_start (policy : RefreshPolicy) (loadTimeout : Span) (default : KeyTransport)
    (source : Source) : (start policy loadTimeout default source).Valid where
  coherent number s hs := by
    cases (List.getElem?_nil : ([] : List Snapshot)[number]? = none).symm.trans hs
  sound _ := trivial

/-- **Answers always come from the current document.** After any run, let `d` be the document that
was loaded last. A task that takes its snapshot now is answered what `d` gives, however long that
takes and whatever happens meanwhile; one that is called now is answered what `d` or a document
loaded later gives; as long as no load succeeds, no answer changes; and a refresh that is only made
if need be fails only if nothing has ever been loaded. -/
theorem answers_current (policy : RefreshPolicy) (loadTimeout : Span) (default : KeyTransport)
    (source : Source) (trace : List Event) (s : System)
    (h : Run (start policy loadTimeout default source) trace s) :
    (∀ d, (loads trace).getLast? = some d →
      (∀ k s' rest t q answer, Step s (.acted k .takes) s' → Run s' rest t →
        t.tasks k = .answered q answer → answer = d.answer default q) ∧
      ∀ k rest t q answer, s.tasks k = .ready → Run s rest t → t.tasks k = .answered q answer →
        ∃ d' ∈ d :: loads rest, answer = d'.answer default q) ∧
    (∀ rest t, Run s rest t → loads rest = [] → ∀ q,
      (t.shared.resolver.resolve q).1 = (s.shared.resolver.resolve q).1) ∧
    ∀ k f t, Step s (.acted k (.reports true (.error f))) t → loads trace = [] := by
  have hs := run_valid h (valid_start ..)
  have hdefault : s.shared.defaultTransport = default := run_defaultTransport h
  have hdocuments : s.shared.documents = loads trace := run_documents h
  refine ⟨fun d hd => ⟨?_, ?_⟩, ?_, ?_⟩
  · intro k s' rest t q answer htakes hrest ht
    rw [answered_of_takes hs htakes hrest q answer ht, ← hdefault]
    exact s.shared.trusted_resolver q d (hdocuments ▸ hd)
  · intro k rest t q answer hk hrest ht
    rw [← hdefault]
    exact answered_of_ready hs hk hrest q answer ht d (hdocuments ▸ hd)
  · intro rest t hrest hloads q
    have hsame : t.shared.documents = s.shared.documents := by
      rw [run_documents hrest, hloads, List.append_nil]
    rw [(run_valid hrest hs).coherent.resolve, hs.coherent.resolve]
    exact s.shared.trusted_of_documents t.shared hsame (run_defaultTransport hrest) q
  · intro k f t hreports
    cases hreports with
    | acted _ _ u m hact =>
      rw [← hdocuments]
      exact hact.documents_of_reports

def sampleQuery : TrustQuery := ⟨"idp", .identityProvider, .saml20⟩

/-- A document with an entity, and one without it. -/
def sampleBefore : Document :=
  { entities := [
      { entityId := "idp", roles := [{ role := .identityProvider, protocols := [.saml20] }] }] }

def sampleAfter : Document := { entities := [{ entityId := "sp" }] }

def sampleStart : System :=
  start .onDemand (.ofSeconds 10) .rsaOaepMgf1p (.ofDocument sampleBefore)

/-- The document is replaced while a task resolves. The task fills the cache of the snapshot that it
took, and one that takes its snapshot later is told that the entity is gone. -/
theorem answers_current_sample :
    ∃ trace s s' rest t answer, Run sampleStart trace s ∧
      (loads trace).getLast? = some sampleAfter ∧
      (∃ e, s.tasks 1 = .answered sampleQuery (.ok e)) ∧
      Step s (.acted 3 .takes) s' ∧ Run s' rest t ∧ t.tasks 3 = .answered sampleQuery answer ∧
      answer = sampleAfter.answer .rsaOaepMgf1p sampleQuery := by
  have hrun := Run.act (s := sampleStart) (k := 0) .calls rfl <|
    .act (k := 0) (.locks false rfl) rfl <|
    .act (k := 0) (.reads false) rfl <|
    .act (k := 0) (.loads false sampleBefore ⟨0⟩) rfl <|
    .act (k := 1) (.asks sampleQuery) rfl <|
    .act (k := 1) (.takes sampleQuery nofun) rfl <|
    .cons (.replaced (.ofDocument sampleAfter)) <|
    .act (k := 2) .calls rfl <|
    .act (k := 2) (.locks false rfl) rfl <|
    .act (k := 2) (.reads false) rfl <|
    .act (k := 2) (.loads false sampleAfter ⟨1⟩) rfl <|
    .act (k := 1) (.derives sampleQuery 0 _ _ rfl rfl rfl) rfl <|
    .act (k := 1) (.keeps sampleQuery 0 _) rfl <|
    .act (k := 3) (.asks sampleQuery) rfl <| .nil _
  refine ⟨_, _, _, _, _, _, hrun, rfl, ⟨_, rfl⟩, .acted 3 .takes _ _ (.takes sampleQuery nofun),
    .act (k := 3) (.refuses sampleQuery 1 _ _ rfl rfl rfl) rfl <| .nil _, rfl, ?_⟩
  exact ((answers_current _ _ _ _ _ _ hrun).1 sampleAfter rfl).1 3 _ _ _ _ _
    (.acted 3 .takes _ _ (.takes sampleQuery nofun))
    (.act (k := 3) (.refuses sampleQuery 1 _ _ rfl rfl rfl) rfl <| .nil _) rfl

end System

end Federation.Metadata
