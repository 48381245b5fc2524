import Federation.Crypto.Pem
import Federation.Proofs.Bytes
import Federation.Proofs.Text.Base64
import Federation.Proofs.Text.Blank

/-!
# Blocks read back

A block is read back under its label, for labels that hold no dash and no end of a line.

    decode (encode label data) = ok (label, data)

The base64 of the data has no dash either, so its lines are no closing ones, and no blank, so they
stay whole. It was cut into lines without regard to groups; joined again it falls into the groups
that it was written in (`data?_encode`).
-/

namespace Federation.Crypto.Pem

open Federation.Text (Base64.encode Base64.decode isBlank trimEnd)

/-! ## Base64 in groups -/

theorem mapM_decode_nil : (Bytes.blocks 4 ([] : List Char)).mapM Base64.decode = some [] := by
  rw [Bytes.blocks_nil]
  rfl

/-- A group in front of text that is read. -/
theorem mapM_decode_group (group : Bytes) (rest : List Char) (groups : List Bytes)
    (hlength : (Base64.encode group).length = 4)
    (h : (Bytes.blocks 4 rest).mapM Base64.decode = some groups) :
    (Bytes.blocks 4 (Base64.encode group ++ rest)).mapM Base64.decode = some (group :: groups) := by
  have hne : Base64.encode group ≠ [] := by
    rw [← List.length_pos_iff, hlength]
    decide
  rw [Bytes.blocks_append 4 _ rest hne (Or.inl hlength), List.mapM_cons, Text.Base64.decode_encode,
    h]
  rfl

/-- What base64 text is read group by group. -/
theorem mapM_decode_encode (data : Bytes) :
    ∃ groups, (Bytes.blocks 4 (Base64.encode data)).mapM Base64.decode = some groups ∧
      groups.flatten = data := by
  match data with
  | [] => exact ⟨[], mapM_decode_nil, rfl⟩
  | [a] => exact ⟨[[a]], mapM_decode_group [a] [] [] rfl mapM_decode_nil, rfl⟩
  | [a, b] => exact ⟨[[a, b]], mapM_decode_group [a, b] [] [] rfl mapM_decode_nil, rfl⟩
  | a :: b :: c :: rest =>
    obtain ⟨groups, hgroups, hrest⟩ := mapM_decode_encode rest
    refine ⟨[a, b, c] :: groups, mapM_decode_group [a, b, c] _ groups rfl hgroups, ?_⟩
    rw [List.flatten_cons, hrest]
    rfl

theorem data?_encode (data : Bytes) : data? (Base64.encode data) = some data := by
  obtain ⟨groups, hgroups, hdata⟩ := mapM_decode_encode data
  unfold data?
  rw [hgroups, Option.map_some, hdata]

/-! ## Lines -/

theorem linesFrom_append (seen line rest : List Char) (h : '\n' ∉ line) :
    linesFrom seen (line ++ '\n' :: rest) = (seen.reverse ++ line) :: linesFrom [] rest := by
  induction line generalizing seen with
  | nil =>
    rw [List.nil_append, linesFrom, if_pos rfl, List.append_nil]
  | cons c line ih =>
    obtain ⟨hc, hline⟩ := not_or.1 (mt List.mem_cons.2 h)
    rw [List.cons_append, linesFrom, if_neg (Ne.symm hc), ih _ hline]
    simp

/-- Lines that were put one under the other. -/
theorem linesFrom_flatMap (lines : List (List Char)) (rest : List Char)
    (h : ∀ line ∈ lines, '\n' ∉ line) :
    linesFrom [] (lines.flatMap (· ++ ['\n']) ++ rest) = lines ++ linesFrom [] rest := by
  induction lines with
  | nil => rfl
  | cons line lines ih =>
    have hline := linesFrom_append [] line (lines.flatMap (· ++ ['\n']) ++ rest)
      (h line List.mem_cons_self)
    rw [List.flatMap_cons, List.append_assoc, List.append_assoc, List.singleton_append, hline,
      ih fun l hl => h l (List.mem_cons_of_mem _ hl)]
    rfl

/-- What stands in a line of base64. -/
def Plain (line : List Char) : Prop := ∀ c ∈ line, isBlank c = false ∧ c ≠ '-'

theorem begins_of_plain (word : String) (line : List Char) (h : Plain line) :
    begins word line = false := by
  cases line with
  | nil => rfl
  | cons c line =>
    have hc := (h c List.mem_cons_self).2
    have hne : ('-' == c) = false := beq_eq_false_iff_ne.2 (Ne.symm hc)
    unfold begins dashes
    show ('-' == c && _) = false
    rw [hne, Bool.false_and]

theorem trimEnd_of_plain (line : List Char) (h : Plain line) : trimEnd line = line := by
  unfold trimEnd
  cases hline : line.reverse with
  | nil => rw [List.reverse_eq_nil_iff.1 hline]; rfl
  | cons c rest =>
    have hc : c ∈ line := List.mem_reverse.1 (by rw [hline]; exact List.mem_cons_self)
    rw [List.dropWhile_cons_of_neg (by rw [(h c hc).1]; exact Bool.false_ne_true), ← hline,
      List.reverse_reverse]

/-- Everything up to the closing line is joined. -/
theorem body?_append (lines : List (List Char)) (last : List Char) (rest : List (List Char))
    (h : ∀ line ∈ lines, Plain line) (hlast : begins "END " last = true) :
    body? (lines ++ last :: rest) = some lines.flatten := by
  induction lines with
  | nil =>
    rw [List.nil_append, body?, if_pos hlast]
    rfl
  | cons line lines ih =>
    have hline := h line List.mem_cons_self
    rw [List.cons_append, body?, begins_of_plain "END " line hline, if_neg Bool.false_ne_true,
      ih fun l hl => h l (List.mem_cons_of_mem _ hl), trimEnd_of_plain line hline]
    rfl

/-! ## Labels -/

/-- What a label may hold. -/
def IsLabel (label : List Char) : Prop := '-' ∉ label ∧ '\n' ∉ label

theorem beforeDashes_append (label : List Char) (h : '-' ∉ label) :
    beforeDashes (label ++ dashes) = some label := by
  induction label with
  | nil => rfl
  | cons c label ih =>
    obtain ⟨hc, hlabel⟩ := not_or.1 (mt List.mem_cons.2 h)
    have hne : ('-' == c) = false := beq_eq_false_iff_ne.2 hc
    have hdashes : dashes.isPrefixOf (c :: (label ++ dashes)) = false := by
      show ('-' == c && _) = false
      rw [hne, Bool.false_and]
    rw [List.cons_append, beforeDashes, hdashes, if_neg Bool.false_ne_true, ih hlabel]
    rfl

theorem label?_opening (label : List Char) (h : '-' ∉ label) :
    label? (dashes ++ "BEGIN ".toList ++ label ++ dashes) = some label := by
  have hdrop : (dashes ++ "BEGIN ".toList ++ label ++ dashes).drop 11 = label ++ dashes := by
    rw [List.append_assoc]
    show List.drop (dashes ++ "BEGIN ".toList).length _ = _
    exact List.drop_left
  have hall : ∀ c ∈ label, decide (c ≠ '-') = true := by
    intro c hc
    have hne : c ≠ '-' := fun hdash => h (hdash ▸ hc)
    exact decide_eq_true hne
  have hkept : (label ++ []).takeWhile (· ≠ '-') = label ++ [].takeWhile (· ≠ '-') :=
    List.takeWhile_append_of_pos hall
  rw [List.append_nil, List.takeWhile_nil, List.append_nil] at hkept
  unfold label?
  rw [hdrop, beforeDashes_append label h, Option.map_some, hkept]

/-! ## Main result -/

/-- The lines of base64 text. -/
theorem plain_of_mem_blocks (data : Bytes) :
    ∀ line ∈ Bytes.blocks 64 (Base64.encode data), Plain line := by
  intro line hline c hc
  have hmem : c ∈ Base64.encode data := by
    rw [← Bytes.flatten_blocks 64 (Base64.encode data)]
    exact List.mem_flatten.2 ⟨line, hline, hc⟩
  refine ⟨Text.Base64.isBlank_of_mem_encode data c hmem, ?_⟩
  rcases Text.Base64.eq_of_mem_encode data c hmem with rfl | ⟨n, hn, rfl⟩
  · decide
  · exact Text.Base64.standard_ne_dash n hn

/-- The lines of a written block. -/
theorem linesFrom_encode (label : String) (data : Bytes) (h : '\n' ∉ label.toList) :
    linesFrom [] (encode label data).toList
      = (dashes ++ "BEGIN ".toList ++ label.toList ++ dashes)
        :: (Bytes.blocks 64 (Base64.encode data)
          ++ [dashes ++ "END ".toList ++ label.toList ++ dashes]) := by
  have hboundary (word : String) (hword : '\n' ∉ word.toList) :
      '\n' ∉ dashes ++ word.toList ++ label.toList ++ dashes := by
    have hdashes : '\n' ∉ dashes := by decide
    simp [h, hword, hdashes]
  have hopening := linesFrom_append [] _ ((Bytes.blocks 64 (Base64.encode data)).flatMap
    (· ++ ['\n']) ++ ((dashes ++ "END ".toList ++ label.toList ++ dashes) ++ ['\n']))
    (hboundary "BEGIN " (by decide))
  have hbody := linesFrom_flatMap (Bytes.blocks 64 (Base64.encode data))
    ((dashes ++ "END ".toList ++ label.toList ++ dashes) ++ ['\n'])
    fun line hline hmem => absurd (plain_of_mem_blocks data line hline _ hmem).1 (by decide)
  have hclosing := linesFrom_append [] _ [] (hboundary "END " (by decide))
  rw [hbody, hclosing] at hopening
  have htext : (encode label data).toList
      = (dashes ++ "BEGIN ".toList ++ label.toList ++ dashes) ++ '\n' ::
        ((Bytes.blocks 64 (Base64.encode data)).flatMap (· ++ ['\n'])
          ++ ((dashes ++ "END ".toList ++ label.toList ++ dashes) ++ ['\n'])) := by
    unfold encode
    rw [String.toList_ofList]
    simp only [List.append_assoc, List.cons_append]
  rw [htext, hopening]
  rfl

theorem decode_encode (label : String) (data : Bytes) (h : IsLabel label.toList) :
    decode (encode label data) = .ok (label, data) := by
  have hopening : begins "BEGIN " (dashes ++ "BEGIN ".toList ++ label.toList ++ dashes) = true := by
    unfold begins
    rw [List.append_assoc, List.append_assoc, ← List.append_assoc]
    exact List.isPrefixOf_iff_prefix.2 (List.prefix_append _ _)
  have hclosing : begins "END " (dashes ++ "END ".toList ++ label.toList ++ dashes) = true := by
    unfold begins
    rw [List.append_assoc, List.append_assoc, ← List.append_assoc]
    exact List.isPrefixOf_iff_prefix.2 (List.prefix_append _ _)
  unfold decode decode?
  rw [linesFrom_encode label data h.2, List.dropWhile_cons_of_neg (by rw [hopening]; decide)]
  simp only [label?_opening _ h.1, body?_append _ _ [] (plain_of_mem_blocks data) hclosing,
    Bytes.flatten_blocks, data?_encode, Option.bind_eq_bind, Option.bind_some]
  rw [String.ofList_toList]
  rfl

end Federation.Crypto.Pem
