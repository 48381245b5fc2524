import Mathlib.Control.Monad.Basic
import Federation.Crypto.KeyStore
import Federation.Proofs.Crypto.Credential
import Federation.Proofs.Crypto.Pem
import Federation.Proofs.Files

/-!
# A directory of keys after a run

What a directory that was empty answers once credentials were stored in it, one after the other and
some over others.

    privateKey a = (c.withName a).beside (attached? l a)    where last? l a = some c

Storing a credential writes each of its files over the one that was there, and leaves a file alone
that it does not write. So every file of an alias holds what was last written to it (`Holds`), which
for the key is the last credential (`last?`) and for the certificate is the last one that came with
any credential of that alias (`attached?`).
-/

namespace Federation.Crypto

/-! ## Sorted aliases -/

theorem eraseDups_sublist {α : Type} [BEq α] : ∀ l : List α, l.eraseDups.Sublist l
  | [] => List.Sublist.refl _
  | a :: l => by
    rw [List.eraseDups_cons]
    exact List.Sublist.cons_cons a ((eraseDups_sublist _).trans List.filter_sublist)
termination_by l => l.length
decreasing_by exact Nat.lt_succ_of_le (List.length_filter_le _ _)

theorem nodup_eraseDups {α : Type} [BEq α] [LawfulBEq α] : ∀ l : List α, l.eraseDups.Nodup
  | [] => List.nodup_nil
  | a :: l => by
    rw [List.eraseDups_cons, List.nodup_cons, List.mem_eraseDups]
    exact ⟨by simp, nodup_eraseDups _⟩
termination_by l => l.length
decreasing_by exact Nat.lt_succ_of_le (List.length_filter_le _ _)

theorem mem_sortedAliases (aliases : List String) (a : String) :
    a ∈ sortedAliases aliases ↔ a ∈ aliases := by
  unfold sortedAliases
  rw [List.mem_eraseDups, List.mem_mergeSort]

/-- The aliases are in order, each once. -/
theorem pairwise_sortedAliases (aliases : List String) :
    (sortedAliases aliases).Pairwise (· < ·) := by
  have htrans (a b c : String) : decide (a ≤ b) = true → decide (b ≤ c) = true →
      decide (a ≤ c) = true := by
    rw [decide_eq_true_iff, decide_eq_true_iff, decide_eq_true_iff]
    exact String.le_trans
  have htotal (a b : String) : (decide (a ≤ b) || decide (b ≤ a)) = true := by
    rw [Bool.or_eq_true, decide_eq_true_iff, decide_eq_true_iff]
    exact String.le_total a b
  have hsorted := List.pairwise_mergeSort htrans htotal aliases
  have hle := hsorted.sublist (eraseDups_sublist (aliases.mergeSort fun a b => decide (a ≤ b)))
  refine (hle.and (nodup_eraseDups _)).imp fun {a b} ⟨hab, hne⟩ => ?_
  rw [← String.not_le]
  exact fun hba => hne (String.le_antisymm (of_decide_eq_true hab) hba)

/-! ## Written credentials -/

theorem PrivateCredential.ofPem_toPem (c : PrivateCredential) :
    ofPem c.toPem = ofPkcs8 c.pkcs8 := by
  have hdecode := Pem.decode_encode "PRIVATE KEY" c.pkcs8 (by unfold Pem.IsLabel; decide)
  unfold ofPem toPem
  rw [hdecode]
  rfl

theorem PublicCredential.ofPem_toPem (c : PublicCredential) :
    ofPem c.toPem = ofKeyInfo c.keyInfo := by
  have hdecode := Pem.decode_encode "PUBLIC KEY" c.keyInfo (by unfold Pem.IsLabel; decide)
  unfold ofPem toPem
  rw [hdecode]
  rfl

theorem PublicCredential.ofPem_certificate (der : Bytes) :
    ofPem (Pem.encode "CERTIFICATE" der) = ofCertificate der := by
  have hdecode := Pem.decode_encode "CERTIFICATE" der (by unfold Pem.IsLabel; decide)
  unfold ofPem
  rw [hdecode]
  rfl

theorem PrivateCredential.withCertificateIn_encode (c : PrivateCredential) (der : Bytes) :
    c.withCertificateIn (Pem.encode "CERTIFICATE" der) = c.withCertificate der := by
  unfold withCertificateIn
  rw [PublicCredential.ofPem_certificate]
  cases h : PublicCredential.ofCertificate der with
  | error e =>
    unfold withCertificate
    rw [h]
    rfl
  | ok p =>
    rw [ok_bind, (PublicCredential.certified_of_ofCertificate der p h).1]

/-! ## The files of an alias -/

namespace KeyFile

theorem length_ending (file : KeyFile) : file.ending.toList.length = 8 := by
  cases file <;> rfl

theorem ending_inj (f g : KeyFile) (h : f.ending = g.ending) : f = g := by
  cases f <;> cases g <;> first | rfl | exact absurd h (by decide)

/-- A file name tells both the alias and which of its files it is. -/
theorem append_ending_inj (a b : String) (f g : KeyFile) :
    a ++ f.ending = b ++ g.ending ↔ a = b ∧ f = g := by
  constructor
  · intro h
    have hlists := congrArg String.toList h
    rw [String.toList_append, String.toList_append] at hlists
    -- the endings are of one length, so the two names are cut at the same place
    obtain ⟨ha, hf⟩ := List.append_inj' hlists (by rw [length_ending, length_ending])
    exact ⟨String.toList_inj.1 ha, ending_inj f g (String.toList_inj.1 hf)⟩
  · rintro ⟨rfl, rfl⟩
    rfl

/-- What a file holds for a credential, if storing it writes the file. -/
def text? (c : PrivateCredential) : KeyFile → Option String
  | secret => some c.toPem
  | published => some c.publicHalf.toPem
  | certificate => c.certificate.map (Pem.encode "CERTIFICATE")

end KeyFile

namespace KeyDirectory

variable (d : KeyDirectory) (files files' : Files)

theorem checkAlias_eq_ok (a : String) : checkAlias a = .ok () ↔ isAlias a = true :=
  ite_ok_eq_ok _ _

theorem not_mem_of_isAlias (a : String) (h : isAlias a = true) : '/' ∉ a.toList := by
  unfold isAlias at h
  rw [Bool.and_eq_true, Bool.and_eq_true, List.all_eq_true] at h
  exact fun hmem => absurd (h.1.2 '/' hmem) (by decide)

theorem not_mem_name (a : String) (f : KeyFile) (h : isAlias a = true) :
    '/' ∉ (a ++ f.ending).toList := by
  rw [String.toList_append, List.mem_append]
  rintro (hmem | hmem)
  · exact not_mem_of_isAlias a h hmem
  · revert hmem
    cases f <;> decide

theorem relative_name (a : String) (f : KeyFile) (h : isAlias a = true) :
    Files.Relative (a ++ f.ending) := by
  rw [Files.relative_iff]
  exact fun hhead => not_mem_name a f h (List.mem_of_mem_head? (Option.mem_def.2 hhead))

/-- What stands at the place of a file of an alias. -/
def at? (a : String) (f : KeyFile) : Option Reading :=
  files.entries.lookup (files.lead d.path ++ (a ++ f.ending))

theorem full_pathOf (a : String) (f : KeyFile) (h : isAlias a = true) :
    files.full (d.pathOf a f) = files.lead d.path ++ (a ++ f.ending) :=
  Files.full_join files d.path _ (relative_name a f h)

/-! ## Storing a credential -/

theorem at?_write (a : String) (f : KeyFile) (s : String) (h : isAlias a = true) (b : String)
    (g : KeyFile) : d.at? (files.write (d.pathOf a f) s) b g
      = if b = a ∧ g = f then some (.text s) else d.at? files b g := by
  have hlead : (files.write (d.pathOf a f) s).lead d.path = files.lead d.path := rfl
  unfold at?
  rw [Files.lookup_write, hlead, full_pathOf d files a f h]
  simp only [Files.append_right_inj, KeyFile.append_ending_inj]

theorem store_eq_ok (a : String) (c : PrivateCredential) (h : d.store files a c = .ok files') :
    isAlias a = true ∧
      files' = (contents c).foldl (fun files (f, s) => files.write (d.pathOf a f) s) files := by
  unfold store at h
  obtain ⟨halias, h⟩ := (unit_bind_eq_ok _ _ _).1 h
  refine ⟨(checkAlias_eq_ok a).1 halias, ?_⟩
  split at h
  · cases h
  · exact (Except.ok.inj h).symm

theorem contents_none (c : PrivateCredential) (h : c.certificate = none) :
    contents c = [(.secret, c.toPem), (.published, c.publicHalf.toPem)] := by
  unfold contents
  rw [h]
  rfl

theorem contents_some (c : PrivateCredential) (der : Bytes) (h : c.certificate = some der) :
    contents c = [(.secret, c.toPem), (.published, c.publicHalf.toPem),
      (.certificate, Pem.encode "CERTIFICATE" der)] := by
  unfold contents
  rw [h]
  rfl

/-- Each file of the alias is written anew or left alone. -/
theorem at?_store (a : String) (c : PrivateCredential) (h : d.store files a c = .ok files')
    (b : String) (g : KeyFile) :
    d.at? files' b g
      = if b = a then ((g.text? c).map .text).or (d.at? files b g) else d.at? files b g := by
  obtain ⟨halias, rfl⟩ := store_eq_ok d files files' a c h
  by_cases hb : b = a
  · cases hcertificate : c.certificate with
    | none =>
      rw [contents_none c hcertificate]
      cases g <;> simp [at?_write, halias, hb, KeyFile.text?, hcertificate]
    | some der =>
      rw [contents_some c der hcertificate]
      cases g <;> simp [at?_write, halias, hb, KeyFile.text?, hcertificate]
  · cases hcertificate : c.certificate with
    | none =>
      rw [contents_none c hcertificate]
      simp [at?_write, halias, hb]
    | some der =>
      rw [contents_some c der hcertificate]
      simp [at?_write, halias, hb]

/-- The only names that come are those of the files of the alias. -/
theorem mem_names_writes (a : String) (h : isAlias a = true) (writes : List (KeyFile × String))
    (n : String) :
    n ∈ (writes.foldl (fun files (f, s) => files.write (d.pathOf a f) s) files).namesBelow d.path
      ↔ (∃ w ∈ writes, n = a ++ w.1.ending) ∨ n ∈ files.namesBelow d.path := by
  induction writes generalizing files with
  | nil => simp
  | cons w writes ih =>
    have hwrite := Files.mem_namesBelow_write files d.path _ w.2 (relative_name a w.1 h) n
    rw [List.foldl_cons, ih]
    unfold pathOf
    rw [hwrite]
    simp only [List.mem_cons, exists_eq_or_imp]
    exact or_left_comm.trans or_assoc.symm

/-! ## Storing one after the other -/

/-- Stores credentials under their aliases, first to last. -/
def storeAll (d : KeyDirectory) (files : Files) (l : List (String × PrivateCredential)) :
    Except Failure Files :=
  l.foldlM (fun files (a, c) => d.store files a c) files

/-- No file stands where the directory should be. -/
def Clear : Prop := ∀ s, files.entries.lookup (files.full d.path) ≠ some (.text s)

theorem length_le_lead : (files.full d.path).toList.length ≤ (files.lead d.path).toList.length := by
  unfold Files.lead Files.into
  split <;> simp

theorem clear_write (a : String) (f : KeyFile) (s : String) (h : isAlias a = true)
    (hclear : d.Clear files) : d.Clear (files.write (d.pathOf a f) s) := by
  have hfull : (files.write (d.pathOf a f) s).full d.path = files.full d.path := rfl
  have hne : files.full d.path ≠ files.lead d.path ++ (a ++ f.ending) := by
    intro heq
    have hlength := congrArg (fun s : String => s.toList.length) heq
    simp only [String.toList_append, List.length_append, f.length_ending] at hlength
    have hle := length_le_lead d files
    omega
  intro t
  rw [Files.lookup_write, hfull, full_pathOf d files a f h, if_neg hne]
  exact hclear t

theorem clear_writes (a : String) (h : isAlias a = true) (writes : List (KeyFile × String))
    (hclear : d.Clear files) :
    d.Clear (writes.foldl (fun files (f, s) => files.write (d.pathOf a f) s) files) := by
  induction writes generalizing files with
  | nil => exact hclear
  | cons w writes ih => exact ih _ (clear_write d files a w.1 w.2 h hclear)

theorem store_of_isAlias (a : String) (c : PrivateCredential) (h : isAlias a = true)
    (hclear : d.Clear files) : ∃ files', d.store files a c = .ok files' ∧ d.Clear files' := by
  refine ⟨_, ?_, clear_writes d files a h (contents c) hclear⟩
  unfold store
  rw [(checkAlias_eq_ok a).2 h, ok_bind]
  split
  · next s hread =>
    unfold Files.read at hread
    split at hread
    · next r hr => exact absurd (hread ▸ hr) (hclear s)
    · split at hread <;> cases hread
  · rfl

/-- A run under valid aliases succeeds. -/
theorem storeAll_of_isAlias (l : List (String × PrivateCredential))
    (h : ∀ e ∈ l, isAlias e.1 = true) (hclear : d.Clear files) :
    ∃ files', d.storeAll files l = .ok files' := by
  induction l generalizing files with
  | nil => exact ⟨files, rfl⟩
  | cons e l ih =>
    obtain ⟨files₁, hstore, hclear₁⟩ :=
      store_of_isAlias d files e.1 e.2 (h e List.mem_cons_self) hclear
    obtain ⟨files', hrun⟩ := ih files₁ (fun e he => h e (List.mem_cons_of_mem _ he)) hclear₁
    exact ⟨files', (bind_eq_ok _ _ _).2 ⟨files₁, hstore, hrun⟩⟩

/-- What the last credential under an alias that has something of a kind has of it. -/
def latest? {α : Type} (l : List (String × PrivateCredential)) (a : String)
    (part : PrivateCredential → Option α) : Option α :=
  l.reverse.findSome? fun e => if e.1 = a then part e.2 else none

/-- The last credential that was stored under an alias. -/
def last? (l : List (String × PrivateCredential)) (a : String) : Option PrivateCredential :=
  latest? l a some

/-- The certificate that was last stored under an alias, with whichever credential. -/
def attached? (l : List (String × PrivateCredential)) (a : String) : Option Bytes :=
  latest? l a PrivateCredential.certificate

section latest

variable {α β : Type} (l : List (String × PrivateCredential)) (a : String)
  (part : PrivateCredential → Option α)

theorem latest?_append (b : String) (c : PrivateCredential) :
    latest? (l ++ [(b, c)]) a part
      = if a = b then (part c).or (latest? l a part) else latest? l a part := by
  unfold latest?
  rw [List.reverse_append, List.reverse_singleton, List.singleton_append, List.findSome?_cons]
  by_cases hb : b = a
  · rw [if_pos hb, if_pos hb.symm]
    cases part c <;> rfl
  · rw [if_neg hb, if_neg (Ne.symm hb)]

theorem map_latest? (f : α → β) :
    (latest? l a part).map f = latest? l a fun c => (part c).map f := by
  unfold latest?
  rw [List.map_findSome?]
  congr 1
  funext e
  exact apply_ite (Option.map f) (e.1 = a) (part e.2) none

theorem exists_of_latest? (x : α) (h : latest? l a part = some x) :
    ∃ c, (a, c) ∈ l ∧ part c = some x := by
  obtain ⟨⟨b, c⟩, hmem, hx⟩ := List.exists_of_findSome?_eq_some h
  rw [Option.ite_none_right_eq_some] at hx
  exact ⟨c, hx.1 ▸ List.mem_reverse.1 hmem, hx.2⟩

/-- What the last credential has itself is the latest. -/
theorem latest?_of_last? (c : PrivateCredential) (x : α) (h : last? l a = some c)
    (hx : part c = some x) : latest? l a part = some x := by
  obtain ⟨before, ⟨b, e⟩, after, hl, he, hnone⟩ := List.findSome?_eq_some_iff.1 h
  rw [Option.ite_none_right_eq_some] at he
  obtain ⟨rfl, he⟩ := he
  cases he
  refine List.findSome?_eq_some_iff.2 ⟨before, _, after, hl, by simpa using hx, fun e he => ?_⟩
  have hother : ¬ e.1 = b := by simpa using hnone e he
  exact if_neg hother

theorem latest?_eq_none (h : a ∉ l.map (·.1)) : latest? l a part = none := by
  rw [Option.eq_none_iff_forall_ne_some]
  intro x hx
  obtain ⟨c, hc, -⟩ := exists_of_latest? l a part x hx
  exact h (List.mem_map_of_mem hc)

theorem exists_last? (h : a ∈ l.map (·.1)) : ∃ c, last? l a = some c := by
  obtain ⟨e, he, rfl⟩ := List.mem_map.1 h
  have hsome : (last? l e.1).isSome = true :=
    List.findSome?_isSome_iff.2 ⟨e, List.mem_reverse.2 he, by simp⟩
  exact Option.isSome_iff_exists.1 hsome

theorem mem_of_last? (c : PrivateCredential) (h : last? l a = some c) : (a, c) ∈ l := by
  obtain ⟨e, he, hce⟩ := exists_of_latest? l a some c h
  cases hce
  exact he

theorem attached?_of_certificate (c : PrivateCredential) (h : last? l a = some c) (der : Bytes)
    (hder : c.certificate = some der) : attached? l a = some der :=
  latest?_of_last? l a _ c der h hder

/-- Any certificate of a run was read as one. -/
theorem ofCertificate_of_attached? (hbuilt : ∀ e ∈ l, e.2.Built) (der : Bytes)
    (h : attached? l a = some der) : ∃ p, PublicCredential.ofCertificate der = .ok p := by
  obtain ⟨e, he, hder⟩ := exists_of_latest? l a _ der h
  exact ⟨_, PrivateCredential.ofCertificate_of_built e (hbuilt _ he) der hder⟩

end latest

/-! ## What the directory holds -/

/-- A directory with nothing in it; one that is there at all lists itself. -/
def Vacant : Prop := ∀ n ∈ files.namesBelow d.path, n = "."

/-- Every file of every alias holds what was last written to it, and nothing else is there. -/
structure Holds (l : List (String × PrivateCredential)) : Prop where
  isAlias : ∀ e ∈ l, isAlias e.1 = true
  at?_eq : ∀ a f, d.at? files a f = (latest? l a f.text?).map .text
  names : ∀ n ∈ files.namesBelow d.path, n = "." ∨ ∃ e ∈ l, ∃ f : KeyFile, n = e.1 ++ f.ending

theorem name_ne_dot (a : String) (f : KeyFile) : a ++ f.ending ≠ "." := by
  intro h
  have hlength := congrArg (fun s : String => s.toList.length) h
  simp only [String.toList_append, List.length_append, f.length_ending] at hlength
  have hdot : ".".toList.length = 1 := rfl
  omega

theorem holds_of_vacant (h : d.Vacant files) : d.Holds files [] where
  isAlias := nofun
  at?_eq a f := by
    show d.at? files a f = none
    unfold at?
    rw [Option.eq_none_iff_forall_ne_some]
    intro r hr
    have hmem := mem_of_lookup _ _ _ hr
    exact name_ne_dot a f (h _ ((Files.mem_namesBelow files d.path _).2 ⟨r, hmem⟩))
  names n hn := Or.inl (h n hn)

theorem holds_store (l : List (String × PrivateCredential)) (a : String) (c : PrivateCredential)
    (hl : d.Holds files l) (h : d.store files a c = .ok files') :
    d.Holds files' (l ++ [(a, c)]) where
  isAlias e he := by
    rw [List.mem_append, List.mem_singleton] at he
    rcases he with he | rfl
    · exact hl.isAlias e he
    · exact (store_eq_ok d files files' a c h).1
  at?_eq b f := by
    rw [at?_store d files files' a c h, latest?_append, hl.at?_eq]
    split
    · cases f.text? c <;> rfl
    · rfl
  names n hn := by
    obtain ⟨halias, rfl⟩ := store_eq_ok d files files' a c h
    rcases (mem_names_writes d files a halias _ n).1 hn with ⟨w, -, rfl⟩ | hn
    · exact Or.inr ⟨(a, c), by simp, w.1, rfl⟩
    · rcases hl.names n hn with hdot | ⟨e, he, f, hf⟩
      · exact Or.inl hdot
      · exact Or.inr ⟨e, List.mem_append_left _ he, f, hf⟩

/-- A run of stores takes what the directory holds along. -/
theorem holds_storeAll (l₀ l : List (String × PrivateCredential)) (h₀ : d.Holds files l₀)
    (h : d.storeAll files l = .ok files') : d.Holds files' (l₀ ++ l) := by
  -- along the run what is stored moves from the list ahead to the end of the list behind
  induction l generalizing files l₀ with
  | nil =>
    cases h
    rwa [List.append_nil]
  | cons e l ih =>
    unfold storeAll at h
    rw [List.foldlM_cons] at h
    obtain ⟨files₁, hstore, h⟩ := (bind_eq_ok _ _ _).1 h
    have hstep := holds_store d files files₁ l₀ e.1 e.2 h₀ hstore
    have hrun := ih files₁ (l₀ ++ [e]) hstep h
    rwa [List.append_assoc, List.singleton_append] at hrun

/-! ## Reading the files -/

section holding

variable {l : List (String × PrivateCredential)} (hl : d.Holds files l) (a : String)
include hl

theorem not_mem_of_mem_names (n : String) (hn : n ∈ files.namesBelow d.path) : '/' ∉ n.toList := by
  rcases hl.names n hn with rfl | ⟨e, he, f, rfl⟩
  · decide
  · exact not_mem_name e.1 f (hl.isAlias e he)

/-- No file of an alias is a directory. -/
theorem namesBelow_pathOf (f : KeyFile) (h : isAlias a = true) :
    files.namesBelow (d.pathOf a f) = [] := by
  rw [List.eq_nil_iff_forall_not_mem]
  intro n hn
  obtain ⟨r, hr⟩ := (Files.mem_namesBelow files _ n).1 hn
  have hne : files.lead d.path ++ (a ++ f.ending) ≠ "" := by
    intro hempty
    have hlength := congrArg (fun s : String => s.toList.length) hempty
    simp [f.length_ending] at hlength
  have hplace : files.lead (d.pathOf a f) = files.lead d.path ++ (a ++ f.ending) ++ "/" := by
    unfold Files.lead
    rw [full_pathOf d files a f h, Files.into_of_ne _ hne, if_neg]
    · rfl
    · cases f <;> simp [Files.endsWith_slash, KeyFile.ending]
  rw [hplace, String.append_assoc, String.append_assoc] at hr
  -- a file below that path would be a name with a slash below the directory
  have hbelow := (Files.mem_namesBelow files d.path _).2 ⟨r, hr⟩
  exact not_mem_of_mem_names d files hl _ hbelow (by simp)

theorem content?_of_holds (f : KeyFile) (h : isAlias a = true) :
    d.content? files a f = .ok (latest? l a f.text?) := by
  have hat := hl.at?_eq a f
  unfold at? at hat
  unfold content? Files.read
  rw [full_pathOf d files a f h, hat]
  cases latest? l a f.text? with
  | some s => rfl
  | none =>
    rw [Option.map_none]
    dsimp only
    rw [namesBelow_pathOf d files hl a f h]
    rfl

theorem content?_certificate (h : isAlias a = true) : d.content? files a .certificate
    = .ok ((attached? l a).map (Pem.encode "CERTIFICATE")) := by
  rw [content?_of_holds d files hl a .certificate h]
  exact congrArg Except.ok (map_latest? l a _ _).symm

theorem content?_of_last? (c : PrivateCredential) (h : last? l a = some c) (f : KeyFile)
    (s : String) (hs : f.text? c = some s) : d.content? files a f = .ok (some s) := by
  have halias := hl.isAlias (a, c) (mem_of_last? l a c h)
  rw [content?_of_holds d files hl a f halias, latest?_of_last? l a _ c s h hs]

end holding

/-! ## Aliases of the names -/

theorem isSuffixOf_name (a : String) (f g : KeyFile) :
    g.ending.toList.isSuffixOf (a ++ f.ending).toList = true ↔ g = f := by
  rw [List.isSuffixOf_iff_suffix]
  constructor
  · rintro ⟨b, hb⟩
    have hname : String.ofList b ++ g.ending = a ++ f.ending := by
      rw [← String.toList_inj, String.toList_append, String.toList_ofList, hb]
    exact ((KeyFile.append_ending_inj _ _ g f).1 hname).2
  · rintro rfl
    rw [String.toList_append]
    exact List.suffix_append _ _

theorem aliasOf?_name (a : String) (f : KeyFile) : aliasOf? (a ++ f.ending) = some a := by
  have hcut : (a ++ f.ending).toList.take ((a ++ f.ending).toList.length - 8) = a.toList := by
    rw [String.toList_append, List.length_append, f.length_ending, Nat.add_sub_cancel,
      List.take_left]
  unfold aliasOf?
  simp only [isSuffixOf_name, KeyFile.length_ending, hcut, String.ofList_toList]
  cases f <;> rfl

theorem mem_aliases (hl : d.Holds files l) (a : String) :
    a ∈ (((files.namesBelow d.path).filter fun n => !n.toList.contains '/').filterMap aliasOf?)
      ↔ a ∈ l.map (·.1) := by
  rw [List.mem_filterMap]
  constructor
  · rintro ⟨n, hn, ha⟩
    rcases hl.names n (List.mem_filter.1 hn).1 with rfl | ⟨e, he, f, rfl⟩
    · cases ha
    · rw [aliasOf?_name] at ha
      cases ha
      exact List.mem_map_of_mem he
  · intro ha
    obtain ⟨c, hc⟩ := exists_last? l a ha
    have hat := hl.at?_eq a .secret
    rw [latest?_of_last? l a _ c c.toPem hc rfl] at hat
    have hmem := (Files.mem_namesBelow files d.path _).2 ⟨_, mem_of_lookup _ _ _ hat⟩
    refine ⟨_, List.mem_filter.2 ⟨hmem, ?_⟩, aliasOf?_name a .secret⟩
    simpa using not_mem_of_mem_names d files hl _ hmem

/-! ## What is loaded -/

/-- The last key, with the last certificate. -/
theorem privateKey_of_holds (hl : d.Holds files l) (hbuilt : ∀ e ∈ l, e.2.Built) (a : String)
    (c : PrivateCredential) (h : last? l a = some c) :
    d.privateKey files a = (c.withName a).beside (attached? l a) := by
  have hmem := mem_of_last? l a c h
  have halias := hl.isAlias _ hmem
  have hsome : c.certificate.isSome → (attached? l a).isSome := by
    intro hc
    obtain ⟨der, hder⟩ := Option.isSome_iff_exists.1 hc
    exact Option.isSome_iff_exists.2 ⟨der, attached?_of_certificate l a c h der hder⟩
  obtain ⟨bare, hbare, hremade⟩ := PrivateCredential.remade_of_built c (hbuilt _ hmem)
  rw [← hremade a (attached? l a) hsome]
  unfold privateKey
  rw [(checkAlias_eq_ok a).2 halias, ok_bind,
    content?_of_last? d files hl a c h .secret c.toPem rfl, ok_bind,
    content?_certificate d files hl a halias]
  dsimp only
  rw [PrivateCredential.ofPem_toPem, hbare, ok_bind, ok_bind]
  cases attached? l a with
  | none => rfl
  | some der => exact PrivateCredential.withCertificateIn_encode _ der

/-- The key of the last certificate, or the last key if there is none. -/
theorem publicKey_of_holds (hl : d.Holds files l) (hbuilt : ∀ e ∈ l, e.2.Built) (a : String)
    (c : PrivateCredential) (h : last? l a = some c) :
    d.publicKey files a = match attached? l a with
      | some der => (PublicCredential.ofCertificate der).map (·.withName a)
      | none => .ok (c.publicHalf.withName a) := by
  have hmem := mem_of_last? l a c h
  have halias := hl.isAlias _ hmem
  unfold publicKey
  rw [(checkAlias_eq_ok a).2 halias, ok_bind, content?_certificate d files hl a halias, ok_bind]
  cases hattached : attached? l a with
  | some der =>
    obtain ⟨p, hp⟩ := ofCertificate_of_attached? l a hbuilt der hattached
    dsimp only [Option.map_some]
    rw [PublicCredential.ofPem_certificate, hp]
    rfl
  | none =>
    have hnone : c.certificate = none := by
      rw [Option.eq_none_iff_forall_ne_some]
      intro der hder
      rw [attached?_of_certificate l a c h der hder] at hattached
      cases hattached
    dsimp only [Option.map_none]
    rw [content?_of_last? d files hl a c h .published c.publicHalf.toPem rfl, ok_bind]
    dsimp only
    rw [PublicCredential.ofPem_toPem, c.ofKeyInfo_of_built (hbuilt _ hmem) hnone]
    rfl

/-- An alias that was never stored has neither key. -/
theorem error_of_not_mem (hl : d.Holds files l) (a : String) (h : a ∉ l.map (·.1)) :
    (∃ m, d.privateKey files a = .error (.keyStore m)) ∧
      ∃ m, d.publicKey files a = .error (.keyStore m) := by
  unfold privateKey publicKey
  by_cases halias : isAlias a = true
  · have hnone (f : KeyFile) : d.content? files a f = .ok none := by
      rw [content?_of_holds d files hl a f halias, latest?_eq_none l a _ h]
    simp only [(checkAlias_eq_ok a).2 halias, hnone, ok_bind]
    exact ⟨⟨_, rfl⟩, ⟨_, rfl⟩⟩
  · have hcheck : checkAlias a = .error _ := if_neg halias
    rw [hcheck]
    exact ⟨⟨_, rfl⟩, ⟨_, rfl⟩⟩

theorem aliases_of_holds (hl : d.Holds files l) (h : files.namesBelow d.path ≠ []) :
    ∃ names, d.aliases files = .ok names ∧ names.Pairwise (· < ·) ∧
      ∀ a, a ∈ names ↔ a ∈ l.map (·.1) := by
  have hpresent : (files.namesBelow d.path).isEmpty = false := by
    rwa [List.isEmpty_eq_false_iff]
  unfold aliases Files.list?
  dsimp only
  rw [hpresent, if_neg Bool.false_ne_true]
  refine ⟨_, rfl, pairwise_sortedAliases _, fun a => ?_⟩
  rw [mem_sortedAliases, mem_aliases d files hl]

/-! ## Main result -/

theorem namesBelow_ne_nil (hl : d.Holds files l) (h : l ≠ []) : files.namesBelow d.path ≠ [] := by
  obtain ⟨e, l', rfl⟩ := List.exists_cons_of_ne_nil h
  have hmem := (mem_aliases d files hl e.1).2 (by simp)
  rintro hnil
  rw [hnil] at hmem
  cases hmem

/-- Nothing is left from before: both halves come back as they were stored. -/
theorem load_of_own (hl : d.Holds files l) (hbuilt : ∀ e ∈ l, e.2.Built) (a : String)
    (c : PrivateCredential) (h : last? l a = some c) (hown : attached? l a = c.certificate) :
    d.privateKey files a = .ok (c.withName a) ∧
      d.publicKey files a = .ok (c.publicHalf.withName a) := by
  have hmem := hbuilt _ (mem_of_last? l a c h)
  rw [privateKey_of_holds d files hl hbuilt a c h, publicKey_of_holds d files hl hbuilt a c h, hown]
  refine ⟨c.beside_certificate hmem a, ?_⟩
  cases hcertificate : c.certificate with
  | none => rfl
  | some der =>
    dsimp only
    rw [c.ofCertificate_of_built hmem der hcertificate]
    rfl

/-- A certificate is left from before: it is what the alias publishes. -/
theorem load_of_older (hl : d.Holds files l) (hbuilt : ∀ e ∈ l, e.2.Built) (a : String)
    (c : PrivateCredential) (h : last? l a = some c) (holder : attached? l a ≠ c.certificate) :
    c.certificate = none ∧ ∃ der p,
      attached? l a = some der ∧ PublicCredential.ofCertificate der = .ok p ∧
      d.publicKey files a = .ok (p.withName a) ∧
      d.privateKey files a = if p.sameKey c.publicHalf then .ok (c.withPublic p (some a))
        else .error (.invalidKey "certificate does not match the private key") := by
  -- a certificate of the last credential would be the latest one itself
  have hnone : c.certificate = none := by
    rw [Option.eq_none_iff_forall_ne_some]
    intro der hder
    exact holder ((attached?_of_certificate l a c h der hder).trans hder.symm)
  rw [hnone] at holder
  obtain ⟨der, hattached⟩ := Option.ne_none_iff_exists'.1 holder
  obtain ⟨p, hp⟩ := ofCertificate_of_attached? l a hbuilt der hattached
  refine ⟨hnone, der, p, hattached, hp, ?_, ?_⟩
  · rw [publicKey_of_holds d files hl hbuilt a c h, hattached]
    dsimp only
    rw [hp]
    rfl
  · rw [privateKey_of_holds d files hl hbuilt a c h, hattached]
    show (c.withName a).withCertificate der = _
    unfold PrivateCredential.withCertificate
    rw [hp, ok_bind]
    rfl

/-- After a run of stores in a vacant directory, an alias gives the last credential that was stored
under it if no older certificate is left beside that. If one is, because the last credential has
none, the older certificate is what the alias publishes, and the key comes with it or, where it is
another key, not at all. An alias that was never stored fails, and the list holds the others in
order, each once. -/
theorem load_of_storeAll (l : List (String × PrivateCredential)) (hvacant : d.Vacant files)
    (hbuilt : ∀ e ∈ l, e.2.Built) (h : d.storeAll files l = .ok files') :
    (∀ a c, last? l a = some c →
      (attached? l a = c.certificate → d.privateKey files' a = .ok (c.withName a) ∧
        d.publicKey files' a = .ok (c.publicHalf.withName a)) ∧
      (attached? l a ≠ c.certificate → c.certificate = none ∧ ∃ der p,
        attached? l a = some der ∧ PublicCredential.ofCertificate der = .ok p ∧
        d.publicKey files' a = .ok (p.withName a) ∧
        d.privateKey files' a = if p.sameKey c.publicHalf then .ok (c.withPublic p (some a))
          else .error (.invalidKey "certificate does not match the private key"))) ∧
    (∀ a, a ∉ l.map (·.1) → (∃ m, d.privateKey files' a = .error (.keyStore m)) ∧
      ∃ m, d.publicKey files' a = .error (.keyStore m)) ∧
    (l ≠ [] ∨ files.namesBelow d.path ≠ [] → ∃ names, d.aliases files' = .ok names ∧
      names.Pairwise (· < ·) ∧ ∀ a, a ∈ names ↔ a ∈ l.map (·.1)) := by
  have hl : d.Holds files' l :=
    holds_storeAll d files files' [] l (holds_of_vacant d files hvacant) h
  refine ⟨fun a c hlast => ⟨load_of_own d files' hl hbuilt a c hlast,
    load_of_older d files' hl hbuilt a c hlast⟩, error_of_not_mem d files' hl, fun hpresent => ?_⟩
  refine aliases_of_holds d files' hl ?_
  by_cases hempty : l = []
  · subst hempty
    cases h
    exact hpresent.resolve_left fun hne => hne rfl
  · exact namesBelow_ne_nil d files' hl hempty

/-- The least key on a curve. -/
def leastKey (f : KeyFamily) (curve : Curve) (secret : Secret) : PrivateCredential where
  pkcs8 := Secret.encodeScalar f curve 1
  secret
  publicHalf :=
    { family := f, keyInfo := secret.keyInfo, key := Secret.pointBits curve 1 }

def sampleKey : PrivateCredential := leastKey .ecP256 .p256 (.p256 1)

def sampleSuccessor : PrivateCredential := leastKey .ecP384 .p384 (.p384 1)

/-- A certificate of the first key with nothing else in it. -/
def sampleCertificate : Bytes :=
  let algorithm := AlgorithmId.encode .ecP256
  let nobody := Der.item Der.sequence []
  let moment := Der.item Der.utcTime (Bytes.ofText "260101000000Z")
  let signed := Der.item Der.sequence (Der.unsigned 1 ++ algorithm ++ nobody
    ++ Der.item Der.sequence (moment ++ moment) ++ nobody ++ sampleKey.publicHalf.keyInfo)
  Der.item Der.sequence (signed ++ algorithm ++ Der.bitsItem [])

def sampleCertified : PrivateCredential :=
  sampleKey.withPublic { sampleKey.publicHalf with certificate := some sampleCertificate } none

theorem read_sampleCertificate : PublicCredential.ofCertificate sampleCertificate
    = .ok { sampleKey.publicHalf with certificate := some sampleCertificate } := by
  decide +kernel

theorem built_sampleCertified : sampleCertified.Built := by
  have hkey : PrivateCredential.ofPkcs8 sampleKey.pkcs8 = .ok sampleKey := by decide +kernel
  refine .certified sampleKey sampleCertificate _ (.pkcs8 _ _ hkey) ?_
  exact (sampleKey.withCertificate_eq_ok _ _).2
    ⟨_, read_sampleCertificate, sampleKey.publicHalf.sameKey_refl, rfl⟩

theorem built_sampleSuccessor : sampleSuccessor.Built := by
  have hkey : PrivateCredential.ofPkcs8 sampleSuccessor.pkcs8 = .ok sampleSuccessor := by
    decide +kernel
  exact .pkcs8 _ _ hkey

/-- Two aliases, one stored twice and one that ends like a file. -/
def sampleRun : List (String × PrivateCredential) :=
  [("idp", sampleSuccessor), ("sp.key.pem", sampleSuccessor), ("idp", sampleCertified)]

theorem load_of_storeAll_sample :
    ∃ files', storeAll ⟨"/keys"⟩ ⟨"/", []⟩ sampleRun = .ok files' ∧
      privateKey ⟨"/keys"⟩ files' "idp" = .ok (sampleCertified.withName "idp") ∧
      publicKey ⟨"/keys"⟩ files' "sp.key.pem"
        = .ok (sampleSuccessor.publicHalf.withName "sp.key.pem") := by
  obtain ⟨files', h⟩ := storeAll_of_isAlias ⟨"/keys"⟩ ⟨"/", []⟩ sampleRun (by decide) nofun
  have hbuilt : ∀ e ∈ sampleRun, e.2.Built := by
    simp [sampleRun, built_sampleCertified, built_sampleSuccessor]
  obtain ⟨hloads, -, -⟩ := load_of_storeAll ⟨"/keys"⟩ ⟨"/", []⟩ files' sampleRun nofun hbuilt h
  exact ⟨files', h, ((hloads "idp" sampleCertified rfl).1 rfl).1,
    ((hloads "sp.key.pem" sampleSuccessor rfl).1 rfl).2⟩

/-- A certified key is followed by another key without a certificate. The older certificate stays:
it is what the alias publishes, and the key that was stored last is not loaded. -/
theorem older_certificate_stays :
    ∃ files', storeAll ⟨"/keys"⟩ ⟨"/", []⟩ [("idp", sampleCertified), ("idp", sampleSuccessor)]
        = .ok files' ∧
      Vacant ⟨"/keys"⟩ ⟨"/", []⟩ ∧ sampleCertified.Built ∧ sampleSuccessor.Built ∧
      privateKey ⟨"/keys"⟩ files' "idp"
        = .error (.invalidKey "certificate does not match the private key") ∧
      ∃ p, publicKey ⟨"/keys"⟩ files' "idp" = .ok p ∧
        p.sameKey sampleSuccessor.publicHalf = false := by
  obtain ⟨files', h⟩ := storeAll_of_isAlias ⟨"/keys"⟩ ⟨"/", []⟩
    [("idp", sampleCertified), ("idp", sampleSuccessor)] (by decide) nofun
  have hvacant : Vacant ⟨"/keys"⟩ ⟨"/", []⟩ := nofun
  have hbuilt : ∀ e ∈ [("idp", sampleCertified), ("idp", sampleSuccessor)], e.2.Built := by
    simp [built_sampleCertified, built_sampleSuccessor]
  have hl := holds_storeAll ⟨"/keys"⟩ _ files' [] _ (holds_of_vacant ⟨"/keys"⟩ _ hvacant) h
  refine ⟨files', h, hvacant, built_sampleCertified, built_sampleSuccessor, ?_, ?_⟩
  · rw [privateKey_of_holds _ _ hl hbuilt "idp" sampleSuccessor rfl]
    show (sampleSuccessor.withName "idp").withCertificate sampleCertificate = _
    unfold PrivateCredential.withCertificate
    rw [read_sampleCertificate]
    rfl
  · rw [publicKey_of_holds _ _ hl hbuilt "idp" sampleSuccessor rfl]
    show ∃ p, (PublicCredential.ofCertificate sampleCertificate).map _ = .ok p ∧ _
    rw [read_sampleCertificate]
    exact ⟨_, rfl, rfl⟩

end KeyDirectory

end Federation.Crypto
