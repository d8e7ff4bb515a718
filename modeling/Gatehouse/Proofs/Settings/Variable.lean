import Mathlib
import Gatehouse.Proofs.Decimal.Reading
import Gatehouse.Proofs.Settings.Scalar

/-!
# Texts from the environment

A setting that is a text has a variable in the environment, which goes before the settings file and what is built in.
But the text of a variable is read as a truth value or a number first, and the setting gets the text of that value
(`text_of_variable`). Texts that read as neither are kept, and so are those that are written the way the value is. A
token key of digits becomes another key.
-/

namespace Gatehouse.Settings

open Outcome

/-- A setting that is a text: what it has of its own as a setting that is a single value. -/
structure TextSetting where
  group : String
  name : String
  builtIn : Option Scalar
  get : Settings → String

/-- A setting that is a text as a setting that is a single value. -/
def TextSetting.scalar (x : TextSetting) : ScalarSetting := ⟨x.group, x.name, x.builtIn, String, readText, x.get⟩

variable {s : Settings} {t : Tree} {v : String}

/-! ## Where a value is read from -/

/-- What is read from a member of a section is read from what stands at the two names. -/
theorem Reads.at? {α β : Type} {group name : String} {readGroup : Tree → String → Reading β}
    {read : Tree → String → Reading α} {a : α} {b : β} (hgroup : Reads t group readGroup b)
    (hname : ∀ {t key}, readGroup t key = .ok b → Reads t name read a) {sub : Tree}
    (hsub : t.at? [group, name] = some sub) : ∃ key, read sub key = .ok a := by
  rw [Tree.at?_pair] at hsub
  obtain ⟨middle, hmiddle, hsub⟩ := Option.bind_eq_some_iff.1 hsub
  obtain ⟨key, hread⟩ := hgroup middle hmiddle
  exact hname hread sub hsub

/-- What stands at the place of a single value in a tree of settings, the setting is read from. -/
theorem read_of_ofTree {x : ScalarSetting} (hx : x ∈ ScalarSetting.all) (h : ofTree t = .ok s) {sub : Tree}
    (hsub : t.at? x.names = some sub) : ∃ key, x.read sub key = .ok (x.get s) := by
  obtain ⟨hserver, hlogging, htoken, hpolicy⟩ := reads_of_ofTree h
  simp only [ScalarSetting.all, List.mem_cons, List.not_mem_nil, or_false] at hx
  rcases hx with rfl | rfl | rfl | rfl | rfl | rfl | rfl | rfl | rfl | rfl
  · exact hserver.at? (fun hread => (reads_of_readServer hread).1) hsub
  · exact hserver.at? (fun hread => (reads_of_readServer hread).2) hsub
  · exact hlogging.at? (fun hread => reads_of_readLogging hread) hsub
  · exact htoken.at? (fun hread => (reads_of_readToken hread).1) hsub
  · exact htoken.at? (fun hread => (reads_of_readToken hread).2.1) hsub
  · exact htoken.at? (fun hread => (reads_of_readToken hread).2.2.1) hsub
  · exact htoken.at? (fun hread => (reads_of_readToken hread).2.2.2.1) hsub
  · exact htoken.at? (fun hread => (reads_of_readToken hread).2.2.2.2) hsub
  · exact hpolicy.at? (fun hread => (reads_of_readPolicy hread).1) hsub
  · exact hpolicy.at? (fun hread => (reads_of_readPolicy hread).2) hsub

/-! ## The text of a value -/

/-- A text in lower case. -/
def lower (v : String) : String := String.ofList (v.toList.map Text.lowerAscii)

/-- A text that reads as a truth value, in either case. -/
def IsTruth (v : String) : Prop := lower v = "true" ∨ lower v = "false"

instance (v : String) : Decidable (IsTruth v) := inferInstanceAs (Decidable (_ ∨ _))

/-- The text that a setting gets from the text of its variable: that of the truth value or the number that it reads as,
and else the text itself. -/
def rewritten (v : String) : String :=
  if IsTruth v then lower v
  else
    match Decimal.int64? v.toList, Decimal.float? v.toList with
    | some n, _ => toString n
    | none, some y => y.positionalText
    | none, none => v

/-- The text of the value that a text stands for. -/
theorem readText_ofText (origin : Option String) (v key : String) :
    readText (.scalar origin (.ofText v)) key = .ok (rewritten v) := by
  have hlower : String.ofList (v.toList.map Text.lowerAscii) = lower v := rfl
  unfold Scalar.ofText rewritten
  rw [hlower]
  by_cases htrue : lower v = "true"
  · have htruth : IsTruth v := Or.inl htrue
    rw [if_pos htrue, if_pos htruth, htrue]
    rfl
  · by_cases hfalse : lower v = "false"
    · have htruth : IsTruth v := Or.inr hfalse
      rw [if_neg htrue, if_pos hfalse, if_pos htruth, hfalse]
      rfl
    · have htruth : ¬IsTruth v := not_or.2 ⟨htrue, hfalse⟩
      rw [if_neg htrue, if_neg hfalse, if_neg htruth]
      cases Decimal.int64? v.toList with
      | some n => rfl
      | none =>
        cases Decimal.float? v.toList with
        | some y => rfl
        | none => rfl

/-- The texts that a setting gets as they are: the two truth values, whole numbers and other numbers in the form in
which they are written, and what reads as none of these. -/
inductive Verbatim (v : String) : Prop
  | truth (b : Bool) (hv : v = boolText b)
  | integer (n : Int) (hn : Decimal.isInt64 n = true) (hv : v = toString n)
  | float (y : Binary64) (hint : Decimal.int64? v.toList = none) (hfloat : Decimal.float? v.toList = some y)
    (hv : v = y.positionalText)
  | text (htruth : ¬IsTruth v) (hint : Decimal.int64? v.toList = none) (hfloat : Decimal.float? v.toList = none)

/-- A word for a truth value reads as no number. -/
theorem eq_none_of_truth (h : IsTruth v) : Decimal.int64? v.toList = none ∧ Decimal.float? v.toList = none := by
  have hword : lower v ∉ Decimal.words := by
    rcases h with h | h
    · rw [h]
      decide
    · rw [h]
      decide
  have hletters : v.toList.map Text.lowerAscii = "true".toList ∨ v.toList.map Text.lowerAscii = "false".toList :=
    h.imp (fun h => String.ofList_eq.1 h) (fun h => String.ofList_eq.1 h)
  unfold lower at hword
  cases hs : v.toList with
  | nil =>
    rw [hs] at hletters
    rcases hletters with h | h
    · cases h
    · cases h
  | cons c rest =>
    rw [hs] at hletters hword
    have hfirst : Text.lowerAscii c = 't' ∨ Text.lowerAscii c = 'f' :=
      hletters.imp (fun h => (List.cons.inj h).1) (fun h => (List.cons.inj h).1)
    have hnumeric := Decimal.isNumeric_eq_false_of_lowerAscii hfirst
    -- It begins with a letter, so there is no sign to take away.
    have hsign : Decimal.sign (c :: rest) = (false, c :: rest) := by
      refine Decimal.sign_cons ?_ ?_ rest
      · rintro rfl
        cases hnumeric
      · rintro rfl
        cases hnumeric
    exact Decimal.eq_none_of_not_isNumeric List.mem_cons_self hnumeric (hsign ▸ hword)

/-- A setting gets exactly those texts as they are. -/
theorem rewritten_eq_self_iff : rewritten v = v ↔ Verbatim v := by
  constructor
  · intro h
    unfold rewritten at h
    split_ifs at h with htruth
    · unfold IsTruth at htruth
      rw [h] at htruth
      rcases htruth with rfl | rfl
      · exact .truth true rfl
      · exact .truth false rfl
    · cases hint : Decimal.int64? v.toList with
      | some n =>
        rw [hint] at h
        obtain ⟨m, -, hm⟩ := Option.bind_eq_some_iff.1 hint
        split_ifs at hm with hn
        obtain rfl := Option.some.inj hm
        exact .integer m hn h.symm
      | none =>
        rw [hint] at h
        cases hfloat : Decimal.float? v.toList with
        | some y =>
          rw [hfloat] at h
          exact .float y hint hfloat h.symm
        | none => exact .text htruth hint hfloat
  · intro h
    unfold rewritten
    cases h with
    | truth b hv =>
      subst hv
      cases b with
      | true => decide
      | false => decide
    | integer n hn hv =>
      have hint : Decimal.int64? v.toList = some n := hv ▸ Decimal.int64?_toString hn
      have htruth : ¬IsTruth v := by
        intro h
        rw [(eq_none_of_truth h).1] at hint
        cases hint
      rw [if_neg htruth, hint]
      exact hv.symm
    | float y hint hfloat hv =>
      have htruth : ¬IsTruth v := by
        intro h
        rw [(eq_none_of_truth h).2] at hfloat
        cases hfloat
      rw [if_neg htruth, hint, hfloat]
      exact hv.symm
    | text htruth hint hfloat => rw [if_neg htruth, hint, hfloat]

/-- A text that reads as no truth value and no number: some character of it is in no number, and it is no word for
one. -/
structure IsPlain (v : String) : Prop where
  letter : ∃ c ∈ v.toList, Decimal.isNumeric c = false
  truth : ¬IsTruth v
  number : lower (String.ofList (Decimal.sign v.toList).2) ∉ Decimal.words

/-- Such a text is taken as it is. -/
theorem IsPlain.verbatim (h : IsPlain v) : Verbatim v := by
  obtain ⟨c, hc, hnumeric⟩ := h.letter
  have hword := h.number
  rw [lower, String.toList_ofList] at hword
  obtain ⟨hint, hfloat⟩ := Decimal.eq_none_of_not_isNumeric hc hnumeric hword
  exact .text h.truth hint hfloat

example : IsPlain "0123456789abcdef0123456789abcdef" :=
  ⟨⟨'a', by decide, by decide⟩, by decide +kernel, by decide +kernel⟩

/-! ## What the environment says -/

/-- A variable has no text, or what it is for is at another place than the names lead to. -/
def Elsewhere (names : List String) (entry : String × String) : Prop :=
  entry.2 = "" ∨ ∀ key ∈ keyOfVariable? entry.1, Tree.Apart names (Tree.pathOf key)

instance (names : List String) (entry : String × String) : Decidable (Elsewhere names entry) :=
  inferInstanceAs (Decidable (_ ∨ _))

/-- Variables for other places give nothing at a place. -/
theorem apart_of_elsewhere {names : List String} {entries : List (String × String)}
    (h : ∀ entry ∈ entries, Elsewhere names entry) :
    ∀ given ∈ ofEnvironment ⟨entries⟩, Tree.Apart names (Tree.pathOf given.1) := by
  intro given hgiven
  obtain ⟨⟨name, text⟩, hentry, hgives⟩ := List.mem_filterMap.1 hgiven
  dsimp only at hgives
  split_ifs at hgives with hempty
  obtain ⟨key, hkey, rfl⟩ := Option.map_eq_some_iff.1 hgives
  rcases h _ hentry with hnothing | hapart
  · exact absurd (String.isEmpty_iff.2 hnothing) hempty
  · exact hapart key hkey

/-- Over all layers, the text of the variable of a setting stands at the place of the setting, if no later variable is
for that place. -/
theorem at?_layers {x : ScalarSetting} (hx : x ∈ ScalarSetting.all) (hv : v ≠ "")
    {before after : List (String × String)} (hafter : ∀ entry ∈ after, Elsewhere x.names entry)
    (file : List (String × Tree)) :
    (layers file ⟨before ++ (x.envName, v) :: after⟩).at? x.names =
      some (.scalar (some environmentSource) (.ofText v)) := by
  obtain ⟨-, hpath, -⟩ := ScalarSetting.keyOfVariable?_of_mem hx
  have hgives : ofEnvironment ⟨before ++ (x.envName, v) :: after⟩ =
      ofEnvironment ⟨before⟩ ++ (x.key, .scalar (some environmentSource) (.ofText v)) :: ofEnvironment ⟨after⟩ := by
    simp only [ofEnvironment_eq_filterMap, List.filterMap_append, List.filterMap_cons, ofVariable_envName hx hv]
  rw [layers, hgives]
  exact Tree.at?_putAll_scalar hpath _ _ (apart_of_elsewhere hafter) _

/-- Settings that are loaded are read from all layers. -/
theorem exists_layers_of_load {files : Files} {env : Environment} (h : load files env = .ok s) :
    ∃ file, ofTree (layers file (fullEnvironment files env)) = .ok s := by
  obtain ⟨file, hfile⟩ := exists_ofFiles_of_load h
  exact ⟨file, ((load_eq_ok_iff hfile).1 h).1⟩

/-- Let the environment have a variable for a text, itself or by the environment file, and no later one for the same
place, and let the settings be loaded. Whatever the other variables, the settings file and the built-in values are, the
text is that of the value that the text of the variable reads as. So it is the text of the variable exactly when that
is written the way the value is, or reads as no value, as plain texts do. -/
theorem text_of_variable {files : Files} {env : Environment} (h : load files env = .ok s) {x : TextSetting}
    (hx : x.scalar ∈ ScalarSetting.all) (hv : v ≠ "") {before after : List (String × String)}
    (henv : (fullEnvironment files env).entries = before ++ (x.scalar.envName, v) :: after)
    (hafter : ∀ entry ∈ after, Elsewhere x.scalar.names entry) :
    x.get s = rewritten v ∧ (x.get s = v ↔ Verbatim v) ∧ (IsPlain v → x.get s = v) := by
  obtain ⟨file, hread⟩ := exists_layers_of_load h
  have hentries : fullEnvironment files env = ⟨before ++ (x.scalar.envName, v) :: after⟩ :=
    congrArg Environment.mk henv
  rw [hentries] at hread
  obtain ⟨key, hscalar⟩ := read_of_ofTree hx hread (at?_layers hx hv hafter file)
  have htext : .ok (rewritten v) = (.ok (x.get s) : Reading String) := (readText_ofText _ v key).symm.trans hscalar
  rw [← Except.ok.inj htext]
  exact ⟨rfl, rewritten_eq_self_iff, fun hplain => rewritten_eq_self_iff.2 hplain.verbatim⟩

/-- A token key of 32 digits is loaded as another key of the same length: a number with the zeros of its exponent. -/
theorem text_of_variable_of_digits :
    let env : Environment :=
      ⟨[("SCOREIT__TOKEN__SYMMETRIC_KEY", "12345678901234567890123456789012"), ("SCOREIT__SERVER__PORT", "9000")]⟩
    ∃ s, load (.ofList []) env = .ok s ∧ s.token.symmetricKey = "12345678901234567000000000000000" ∧
      ¬Verbatim "12345678901234567890123456789012" := by
  intro env
  let x : TextSetting := ⟨"token", "symmetric_key", none, (·.token.symmetricKey)⟩
  have hx : x.scalar ∈ ScalarSetting.all := by simp [ScalarSetting.all, TextSetting.scalar, x]
  have hload : load (.ofList []) env = .ok
      { server := ⟨"0.0.0.0", 9000⟩, logging := ⟨"debug"⟩, policy := ⟨"authz_policy.csv", "authz_model.conf"⟩
        token := ⟨"12345678901234567000000000000000", 900, 86400, "scoreit-api", "scoreit-app"⟩, users := [] } :=
    toOption_eq_some_iff.1 (by decide +kernel)
  have henv : (fullEnvironment (.ofList []) env).entries =
      [] ++ (x.scalar.envName, "12345678901234567890123456789012") :: [("SCOREIT__SERVER__PORT", "9000")] := by
    decide +kernel
  have hafter : ∀ entry ∈ [("SCOREIT__SERVER__PORT", "9000")], Elsewhere x.scalar.names entry := by decide +kernel
  have hrewritten : rewritten "12345678901234567890123456789012" = "12345678901234567000000000000000" := by
    decide +kernel
  obtain ⟨hkey, hverbatim, -⟩ := text_of_variable hload hx (by decide) henv hafter
  refine ⟨_, hload, hkey.trans hrewritten, fun h => ?_⟩
  exact absurd (hrewritten.symm.trans (hkey.symm.trans (hverbatim.2 h))) (by decide)

end Gatehouse.Settings
