import Mathlib
import Gatehouse.Http.Request
import Gatehouse.Proofs.Text.Blank
import Gatehouse.Proofs.Text.Utf8
import Gatehouse.Proofs.Token.RoundTrip

/-!
# Tokens in headers

The token of an authorization header is its second field, if the first is the scheme (`bearerToken_grammar`). A token
that is made is a word of visible characters (`TokenMaker.isVisible_of_mem_sign`), so a request finds it again in the
header in which it is sent as a bearer credential (`Request.credential_bearer`).
-/

namespace Gatehouse

/-- A character that is visible and no blank. -/
def Text.isVisible (c : Char) : Bool := 0x20 < c.toNat && c.toNat < 0x7F

/-- A visible character is not blank. -/
theorem Text.isBlank_of_isVisible {c : Char} (h : isVisible c = true) : isBlank c = false := by
  simp only [isVisible, Bool.and_eq_true, decide_eq_true_eq] at h
  simp only [isBlank, Bool.or_eq_false_iff, Bool.and_eq_false_iff, decide_eq_false_iff_not]
  omega

/-- Every character of a token is visible. -/
theorem TokenMaker.isVisible_of_mem_sign {maker : TokenMaker} {claims : Claims} {c : Char}
    (h : c ∈ (maker.sign claims).toList) : Text.isVisible c = true := by
  have hdigit (bytes : List UInt8) (hc : c ∈ Encoding.Base64.urlSafe.encode bytes) : Text.isVisible c = true := by
    obtain ⟨n, hn, rfl⟩ := Encoding.Base64.exists_digit_of_mem_encode hc
    have all : ∀ n < 64, Text.isVisible (Encoding.Base64.urlSafe.digit n) = true := by decide
    exact all n hn
  rw [sign, String.toList_ofList] at h
  simp only [signedPart, signature, List.mem_append, List.mem_cons] at h
  rcases h with (h | rfl | h) | rfl | h
  · exact hdigit _ h
  · rfl
  · exact hdigit _ h
  · rfl
  · exact hdigit _ h

/-- A token is not empty. -/
theorem TokenMaker.sign_toList_ne_nil (maker : TokenMaker) (claims : Claims) : (maker.sign claims).toList ≠ [] := by
  rw [sign, String.toList_ofList]
  simp [signedPart]

namespace Http

/-! ## Fields of a header -/

/-- The first two fields of an authorization header with what stands around them: a scheme and a token, each a word,
with blanks before and between them, and behind the token nothing, or a blank and anything. -/
structure HeaderFields where
  lead : List Char
  scheme : List Char
  gap : List Char
  token : List Char
  rest : List Char
  lead_blank : Text.AllBlank lead
  scheme_word : Text.IsWord scheme
  gap_blank : Text.AllBlank gap
  gap_ne_nil : gap ≠ []
  token_word : Text.IsWord token
  rest_ends : Text.EndsWord rest

namespace HeaderFields

/-- The characters of the header. -/
def chars (f : HeaderFields) : List Char := f.lead ++ (f.scheme ++ (f.gap ++ (f.token ++ f.rest)))

/-- The header. -/
def text (f : HeaderFields) : String := String.ofList f.chars

/-- The first two words of the header are the scheme and the token. -/
theorem words_chars (f : HeaderFields) : Text.words f.chars = f.scheme :: f.token :: Text.words f.rest := by
  have hends : Text.EndsWord (f.gap ++ (f.token ++ f.rest)) := by
    obtain ⟨c, more, hgap⟩ := List.exists_cons_of_ne_nil f.gap_ne_nil
    have hc := f.gap_blank c (hgap ▸ List.mem_cons_self)
    rw [hgap]
    exact Or.inr ⟨c, _, rfl, hc⟩
  unfold chars
  rw [Text.words_append_of_allBlank f.lead_blank, Text.words_append_of_isWord f.scheme_word hends,
    Text.words_append_of_allBlank f.gap_blank, Text.words_append_of_isWord f.token_word f.rest_ends]

/-- A text of two words or more is a header with these as its fields. -/
theorem exists_of_words {s scheme token : List Char} {others : List (List Char)}
    (h : Text.words s = scheme :: token :: others) :
    ∃ f : HeaderFields, f.chars = s ∧ f.scheme = scheme ∧ f.token = token := by
  obtain ⟨lead, tail, rfl, hlead, hscheme, hends, htail⟩ := Text.words_eq_cons_iff.1 h
  obtain ⟨gap, rest, rfl, hgap, htoken, hrest, -⟩ := Text.words_eq_cons_iff.1 htail
  have hne : gap ≠ [] := by
    -- Without a gap the scheme would not end before the token.
    rintro rfl
    exact htoken.not_endsWord rest hends
  exact ⟨⟨lead, scheme, gap, token, rest, hlead, hscheme, hgap, hne, htoken, hrest⟩, rfl, rfl, rfl⟩

end HeaderFields

/-- The token of a header is its second field, if the first is the scheme in letters of either case. -/
theorem bearerToken_text (f : HeaderFields) :
    bearerToken (some f.text) =
      if f.scheme.map Char.toLower = "bearer".toList then .ok (String.ofList f.token)
      else .error .notAuthenticated := by
  have hlower : f.scheme.map Text.lowerAscii = f.scheme.map Char.toLower :=
    List.map_congr_left fun c _ => Text.lowerAscii_eq_toLower c
  unfold bearerToken HeaderFields.text
  dsimp only
  rw [String.toList_ofList, f.words_chars]
  dsimp only
  rw [hlower, bearerScheme]

/-- A header with fewer than two fields has no token. -/
theorem bearerToken_of_few_fields {header : Option String} (h : ∀ f : HeaderFields, header ≠ some f.text) :
    bearerToken header = .error .notAuthenticated := by
  cases header with
  | none => rfl
  | some value =>
    unfold bearerToken
    dsimp only
    split
    · next scheme token others hwords =>
      obtain ⟨f, hchars, -, -⟩ := HeaderFields.exists_of_words hwords
      refine absurd ?_ (h f)
      rw [HeaderFields.text, hchars, String.ofList_toList]
    · rfl

/-- An authorization header has a token exactly when it is written as the grammar of its fields says: blanks if any, the
word "bearer" in letters of either case, at least one blank, and the token, a word that goes on to the next blank or to
the end. Any other header is not authenticated. So what is found depends on the letters of the scheme and on the token
alone: not on the case of the letters, not on which blanks stand before and between the fields and how many, and not on
what follows. -/
theorem bearerToken_grammar (header : Option String) :
    (∀ token, bearerToken header = .ok token ↔
      ∃ f : HeaderFields, header = some f.text ∧ f.scheme.map Char.toLower = "bearer".toList ∧
        token = String.ofList f.token) ∧
    (bearerToken header = .error .notAuthenticated ↔
      ¬∃ f : HeaderFields, header = some f.text ∧ f.scheme.map Char.toLower = "bearer".toList) ∧
    ∀ f g : HeaderFields, f.scheme.map Char.toLower = g.scheme.map Char.toLower → f.token = g.token →
      bearerToken (some f.text) = bearerToken (some g.text) := by
  refine ⟨fun token => ⟨fun h => ?_, ?_⟩, ⟨fun h => ?_, fun h => ?_⟩, fun f g hscheme htoken => ?_⟩
  · by_cases hfields : ∃ f : HeaderFields, header = some f.text
    · obtain ⟨f, rfl⟩ := hfields
      rw [bearerToken_text] at h
      split_ifs at h with hscheme
      exact ⟨f, rfl, hscheme, (Except.ok.inj h).symm⟩
    · rw [bearerToken_of_few_fields fun f hf => hfields ⟨f, hf⟩] at h
      cases h
  · rintro ⟨f, rfl, hscheme, rfl⟩
    rw [bearerToken_text, if_pos hscheme]
  · rintro ⟨f, rfl, hscheme⟩
    rw [bearerToken_text, if_pos hscheme] at h
    cases h
  · by_cases hfields : ∃ f : HeaderFields, header = some f.text
    · obtain ⟨f, rfl⟩ := hfields
      rw [bearerToken_text, if_neg fun hscheme => h ⟨f, rfl, hscheme⟩]
    · exact bearerToken_of_few_fields fun f hf => hfields ⟨f, hf⟩
  · rw [bearerToken_text, bearerToken_text, hscheme, htoken]

/-- A header in capitals with a tab says the same as one with more blanks and a third field. -/
theorem bearerToken_of_two_spellings :
    bearerToken (some "BEARER\tabc.def") = bearerToken (some "\u2003 Bearer \u00A0abc.def extra") ∧
      bearerToken (some "BEARER\tabc.def") = .ok "abc.def" := by
  have htab : Text.AllBlank ['\t'] := by simp [Text.AllBlank, Text.isBlank]
  have hlead : Text.AllBlank "\u2003 ".toList := by simp [Text.AllBlank, Text.isBlank]
  have hgap : Text.AllBlank " \u00A0".toList := by simp [Text.AllBlank, Text.isBlank]
  have hscheme : Text.IsWord "BEARER".toList := ⟨by decide, by simp [Text.isBlank]⟩
  have hscheme' : Text.IsWord "Bearer".toList := ⟨by decide, by simp [Text.isBlank]⟩
  have htoken : Text.IsWord "abc.def".toList := ⟨by decide, by simp [Text.isBlank]⟩
  have hrest : Text.EndsWord " extra".toList := Or.inr ⟨' ', "extra".toList, by decide, by decide⟩
  let f : HeaderFields :=
    ⟨[], "BEARER".toList, ['\t'], "abc.def".toList, [], Text.allBlank_nil, hscheme, htab, by decide, htoken, Or.inl rfl⟩
  let g : HeaderFields :=
    ⟨"\u2003 ".toList, "Bearer".toList, " \u00A0".toList, "abc.def".toList, " extra".toList, hlead, hscheme', hgap,
      by decide, htoken, hrest⟩
  have hf : f.text = "BEARER\tabc.def" := by rfl
  have hg : g.text = "\u2003 Bearer \u00A0abc.def extra" := by rfl
  have hbearer : f.scheme.map Char.toLower = "bearer".toList := by rfl
  have hletters : f.scheme.map Char.toLower = g.scheme.map Char.toLower := by rfl
  obtain ⟨hfound, -, hsame⟩ := bearerToken_grammar (some f.text)
  rw [← hf, ← hg]
  exact ⟨hsame f g hletters rfl, (hfound "abc.def").2 ⟨f, rfl, hbearer, String.ofList_toList.symm⟩⟩

/-- A credential of visible characters is found after the scheme. -/
theorem bearerToken_bearer {token : String} (hne : token.toList ≠ [])
    (hvisible : ∀ c ∈ token.toList, Text.isVisible c = true) : bearerToken (some ("Bearer " ++ token)) = .ok token := by
  have hscheme : Text.IsWord "Bearer".toList := ⟨by decide, by simp [Text.isBlank]⟩
  have hbearer : "Bearer".toList.map Char.toLower = "bearer".toList := by decide
  have htoken : Text.IsWord token.toList := ⟨hne, fun c hc => Text.isBlank_of_isVisible (hvisible c hc)⟩
  have hgap : Text.AllBlank [' '] := Text.allBlank_nil.cons (by decide)
  let f : HeaderFields :=
    ⟨[], "Bearer".toList, [' '], token.toList, [], Text.allBlank_nil, hscheme, hgap, List.cons_ne_nil _ _, htoken,
      Or.inl rfl⟩
  have htext : f.text = "Bearer " ++ token := by
    rw [← String.toList_inj, HeaderFields.text, String.toList_ofList, String.toList_append, HeaderFields.chars]
    exact congrArg ("Bearer ".toList ++ ·) (List.append_nil token.toList)
  rw [← htext, bearerToken_text, if_pos hbearer]
  exact congrArg Except.ok String.ofList_toList

/-- A text of visible characters and blanks is read from its bytes in a header. -/
theorem Request.visibleText?_ofString {s : String} (h : ∀ c ∈ s.toList, 0x20 ≤ c.toNat ∧ c.toNat < 0x7F) :
    visibleText? (Text.Utf8.ofString s) = some s := by
  have hbytes : (Text.Utf8.ofString s).all (fun b => (0x20 ≤ b && b < 0x7F) || b = 0x09) = true := by
    rw [List.all_eq_true]
    intro b hb
    obtain ⟨c, hc, hbc⟩ := List.mem_flatMap.1 hb
    obtain ⟨h1, h2⟩ := h c hc
    rw [Text.Utf8.encodeChar_ascii (by omega), List.mem_singleton] at hbc
    have hn : b.toNat = c.toNat := by rw [hbc, toNat_toUInt8 (by omega)]
    have hlow : 0x20 ≤ b := by
      rw [UInt8.le_iff_toNat_le, hn]
      exact h1
    have hhigh : b < 0x7F := by
      rw [UInt8.lt_iff_toNat_lt, hn]
      exact h2
    simp [hlow, hhigh]
  unfold visibleText?
  rw [if_pos hbytes, Text.Utf8.decodeString?_ofString]

/-- A token is found in the request that carries it as a bearer credential. -/
theorem Request.credential_bearer {request : Request} {maker : TokenMaker} {claims : Claims}
    (h : request.header? authorizationHeader = some (Text.Utf8.ofString ("Bearer " ++ maker.sign claims))) :
    request.credential = .ok (maker.sign claims) := by
  have hvisible : ∀ c ∈ (maker.sign claims).toList, Text.isVisible c = true :=
    fun c hc => TokenMaker.isVisible_of_mem_sign hc
  have htext : visibleText? (Text.Utf8.ofString ("Bearer " ++ maker.sign claims)) =
      some ("Bearer " ++ maker.sign claims) := by
    refine visibleText?_ofString fun c hc => ?_
    have hscheme : "Bearer ".toList = ['B', 'e', 'a', 'r', 'e', 'r', ' '] := rfl
    rw [String.toList_append, hscheme, List.mem_append] at hc
    rcases hc with hc | hc
    · have all : ∀ c ∈ ['B', 'e', 'a', 'r', 'e', 'r', ' '], 0x20 ≤ c.toNat ∧ c.toNat < 0x7F := by simp
      exact all c hc
    · have hc' := hvisible c hc
      simp only [Text.isVisible, Bool.and_eq_true, decide_eq_true_eq] at hc'
      omega
  unfold credential
  rw [h]
  dsimp only
  rw [htext]
  exact bearerToken_bearer (maker.sign_toList_ne_nil claims) hvisible

end Http

end Gatehouse
