import Federation.Exchange.RelyingParty
import Federation.Proofs.Xml.Alike

/-!
# The layout of received documents

What a party makes of a text hangs on its tree alone. So prefixes, comments, blanks around elements,
and the way characters are written change nothing about the message that is decoded, about the
verdict on its signatures, and about the outcome of the call that it is received with.

    Alike [] (scan s) (scan t)  →  p.consumeText state around s = p.consumeText state around t

A text with a prefix that is not bound is refused, with the prefix in the record of the call. Such
texts are told apart by that name only.
-/

namespace Federation.Exchange

open Federation.Xml Federation.Saml
open Federation.Crypto (Suite)

/-- What a call answers and leaves behind if its text cannot be decoded. -/
def RelyingParty.refusal (p : RelyingParty) (state : RelyingState) (f : Failure) :
    Except Failure Assertion × RelyingState :=
  (.error f, { state with log := state.log ++ [p.event none (.error f)] })

theorem RelyingParty.consumeText_of_error (p : RelyingParty) (state : RelyingState)
    (around : Surroundings) (s : String) (f : Failure) (h : Response.decode s = .error f) :
    p.consumeText state around s = p.refusal state f := by
  unfold consumeText
  rw [h]
  rfl

theorem decode_of_parse_error (s : String) (f : Fault) (h : Element.parse s = .error f) :
    Assertion.decode s = .error (.ofXml f) ∧ Response.decode s = .error (.ofXml f) := by
  unfold Assertion.decode Response.decode
  rw [h]
  exact ⟨rfl, rfl⟩

/-- The outcomes of two texts with the same tree. -/
structure SameOutcome (s t : String) : Prop where
  parse : Element.parse s = Element.parse t
  assertion : Assertion.decode s = Assertion.decode t
  response : Response.decode s = Response.decode t
  /-- The verdict on the signature of the message. -/
  validated : ∀ (suite : Suite) (anchor : Anchor),
    (Assertion.decode s >>= fun a => validate suite a anchor)
        = (Assertion.decode t >>= fun a => validate suite a anchor) ∧
      (Response.decode s >>= fun r => validate suite r anchor)
        = (Response.decode t >>= fun r => validate suite r anchor)
  consumed : ∀ (p : RelyingParty) (state : RelyingState) (around : Surroundings),
    p.consumeText state around s = p.consumeText state around t

/-- Both texts have a prefix that is not bound. -/
structure BothUnbound (s t : String) (pre pre' : String) : Prop where
  parse : Element.parse s = .error (.unboundPrefix pre) ∧
    Element.parse t = .error (.unboundPrefix pre')
  assertion : Assertion.decode s = .error (.ofXml (.unboundPrefix pre)) ∧
    Assertion.decode t = .error (.ofXml (.unboundPrefix pre'))
  response : Response.decode s = .error (.ofXml (.unboundPrefix pre)) ∧
    Response.decode t = .error (.ofXml (.unboundPrefix pre'))
  consumed : ∀ (p : RelyingParty) (state : RelyingState) (around : Surroundings),
    p.consumeText state around s = p.refusal state (.ofXml (.unboundPrefix pre)) ∧
      p.consumeText state around t = p.refusal state (.ofXml (.unboundPrefix pre'))

theorem SameOutcome.of_parse (s t : String) (h : Element.parse s = Element.parse t) :
    SameOutcome s t := by
  have hassertion : Assertion.decode s = Assertion.decode t := by rw [Assertion.decode, h]; rfl
  have hresponse : Response.decode s = Response.decode t := by rw [Response.decode, h]; rfl
  refine ⟨h, hassertion, hresponse, fun suite anchor => ?_, fun p state around => ?_⟩
  · rw [hassertion, hresponse]
    exact ⟨rfl, rfl⟩
  · rw [RelyingParty.consumeText, hresponse]
    rfl

theorem BothUnbound.of_parse (s t pre pre' : String)
    (hs : Element.parse s = .error (.unboundPrefix pre))
    (ht : Element.parse t = .error (.unboundPrefix pre')) : BothUnbound s t pre pre' := by
  obtain ⟨has, hrs⟩ := decode_of_parse_error s _ hs
  obtain ⟨hat, hrt⟩ := decode_of_parse_error t _ ht
  exact ⟨⟨hs, ht⟩, ⟨has, hat⟩, ⟨hrs, hrt⟩, fun p state around =>
    ⟨p.consumeText_of_error state around s _ hrs, p.consumeText_of_error state around t _ hrt⟩⟩

/-! ## Main result -/

/-- **Nobody sees the layout of a document.** Two texts that differ in layout only are read as the
same tree or are both refused for the same reason, so they decode to the same message, their
signatures are judged alike, and a party answers them alike and ends in the same state. -/
theorem consumeText_alike (s t : String)
    (h : Alike [] (Event.scan s.toList) (Event.scan t.toList)) :
    SameOutcome s t ∨ ∃ pre pre', BothUnbound s t pre pre' := by
  rcases parse_alike s t h with hparse | ⟨pre, pre', hs, ht⟩
  · exact Or.inl (.of_parse s t hparse)
  · exact Or.inr ⟨pre, pre', .of_parse s t pre pre' hs ht⟩

/-- A document that writes its prefixes out, and declares one of them anew for one element. -/
def samplePrefixed : String :=
  "<a:r xmlns:a='n'> <a:v xmlns:a='m' k='1'>x&lt;y</a:v> <w/> <a:v/></a:r>"

/-- The same document, without one prefix and with another. Where there was no namespace, the
default one is undone. -/
def sampleRelaid : String :=
  "<?xml version='1.0'?><r xmlns='n'><!--c--><b:v xmlns:b='m' k='1'><![CDATA[x<]]>y</b:v>"
    ++ "<w xmlns=''/><v/></r>"

theorem alike_sample :
    Alike [] (Event.scan samplePrefixed.toList) (Event.scan sampleRelaid.toList) := by
  have hleft : Event.scan samplePrefixed.toList =
      [.opening ⟨"a:r".toList, " xmlns:a='n'".toList⟩, .text " ".toList,
       .opening ⟨"a:v".toList, " xmlns:a='m' k='1'".toList⟩, .text "x&lt;y".toList,
       .closing "a:v".toList, .text " ".toList, .empty ⟨"w".toList, []⟩, .text " ".toList,
       .empty ⟨"a:v".toList, []⟩, .closing "a:r".toList] := by
    decide +kernel
  have hright : Event.scan sampleRelaid.toList =
      [.remark, .opening ⟨"r".toList, " xmlns='n'".toList⟩, .remark,
       .opening ⟨"b:v".toList, " xmlns:b='m' k='1'".toList⟩, .cdata "x<".toList, .text "y".toList,
       .closing "b:v".toList, .empty ⟨"w".toList, " xmlns=''".toList⟩, .empty ⟨"v".toList, []⟩,
       .closing "r".toList] := by
    decide +kernel
  rw [hleft, hright]
  refine @Alike.outside [] [.remark] _ _ rfl rfl
    (.opening ⟨rfl, by decide +kernel, by decide +kernel⟩ ?_)
  refine @Alike.content _ _ [.text _] [.remark] _ _ _ _ rfl rfl
    (.opening ⟨rfl, by decide +kernel, by decide +kernel⟩ ?_)
  refine @Alike.content _ _ [.text _] [.cdata _, .text _] _ _ _ _ rfl rfl ?_
  refine .closing (Or.inl rfl) (iff_of_true rfl rfl) ?_
  refine @Alike.content _ _ [.text _] [] _ _ _ _ rfl rfl
    (.empty ⟨rfl, by decide +kernel, by decide +kernel⟩ ?_)
  refine @Alike.content _ _ [.text _] [] _ _ _ _ rfl rfl
    (.empty ⟨rfl, by decide +kernel, by decide +kernel⟩ ?_)
  exact .closing (Or.inr ⟨rfl, rfl, rfl⟩) (iff_of_true rfl rfl) .ended

/-- A document that undoes a prefix and uses it. -/
def sampleUndone : String := "<a:r xmlns:a='n'><a:v xmlns:a=''/></a:r>"

/-- A document that uses a prefix which it never declares. -/
def sampleUndeclared : String := "<r xmlns='n'><b:v/></r>"

theorem alike_sampleUndone :
    Alike [] (Event.scan sampleUndone.toList) (Event.scan sampleUndeclared.toList) := by
  have hleft : Event.scan sampleUndone.toList =
      [.opening ⟨"a:r".toList, " xmlns:a='n'".toList⟩, .empty ⟨"a:v".toList, " xmlns:a=''".toList⟩,
       .closing "a:r".toList] := by
    decide +kernel
  have hright : Event.scan sampleUndeclared.toList =
      [.opening ⟨"r".toList, " xmlns='n'".toList⟩, .empty ⟨"b:v".toList, []⟩,
       .closing "r".toList] := by
    decide +kernel
  rw [hleft, hright]
  exact .opening ⟨rfl, by decide +kernel, by decide +kernel⟩
    (.empty ⟨rfl, by decide +kernel, by decide +kernel⟩
      (.closing (Or.inl rfl) (iff_of_true rfl rfl) .ended))

/-- Two texts with one tree, and two that are refused for their prefixes. -/
theorem consumeText_alike_sample :
    ((Element.parse samplePrefixed).toOption.isSome = true ∧
      SameOutcome samplePrefixed sampleRelaid) ∧
    BothUnbound sampleUndone sampleUndeclared "a" "b" := by
  have hparse : (Element.parse samplePrefixed).toOption.isSome = true := by decide +kernel
  have hundone : Element.parse sampleUndone = .error (.unboundPrefix "a") := rfl
  have hundeclared : Element.parse sampleUndeclared = .error (.unboundPrefix "b") := rfl
  refine ⟨⟨hparse, ?_⟩, ?_⟩
  · rcases consumeText_alike _ _ alike_sample with h | ⟨pre, pre', h⟩
    · exact h
    · rw [h.parse.1] at hparse
      cases hparse
  · rcases consumeText_alike _ _ alike_sampleUndone with h | ⟨pre, pre', h⟩
    · have hsame := hundone.symm.trans (h.parse.trans hundeclared)
      exact absurd (Fault.unboundPrefix.inj (Except.error.inj hsame)) (by decide)
    · cases hundone.symm.trans h.parse.1
      cases hundeclared.symm.trans h.parse.2
      exact h

end Federation.Exchange
