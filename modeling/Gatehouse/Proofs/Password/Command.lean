import Mathlib
import Gatehouse.Password.Command
import Gatehouse.Proofs.Password.Hash

/-!
# What the command prints

A line of the input is read to its end, however it ends, and what stands behind it does not matter
(`firstLine?_of_ending`). So the command stores the same for a password on its command line and in its input, and
what it prints is one line: the text of a hash that the password has, made on the terms that the text states
(`command_prints`).
-/

namespace Gatehouse.Password

/-! ## Lines -/

/-- What may follow the first line of some input: nothing, or a line feed, with or without a carriage return before it,
and anything behind it. -/
inductive LineEnding : List UInt8 → Prop
  | endOfInput : LineEnding []
  | lineFeed (more : List UInt8) : LineEnding (0x0A :: more)
  | returnLineFeed (more : List UInt8) : LineEnding (0x0D :: 0x0A :: more)

/-- A line without line feeds is read up to its ending, of which at most a carriage return is read with it. -/
theorem LineEnding.exists_takeWhile_eq {ending : List UInt8} (h : LineEnding ending) {line : List Char}
    (hline : '\n' ∉ line) :
    ∃ returns : List Char, (∀ c ∈ returns, c = '\r') ∧
      (Text.Utf8.encode line ++ ending).takeWhile (· ≠ 0x0A) = Text.Utf8.encode (line ++ returns) := by
  have hbytes : ∀ b ∈ Text.Utf8.encode line, decide (b ≠ 0x0A) = true := by
    intro b hb
    rw [decide_eq_true_eq]
    rintro rfl
    exact hline (Text.Utf8.mem_of_mem_encode (c := '\n') (by decide) hb)
  rw [List.takeWhile_append_of_pos hbytes]
  cases h with
  | endOfInput => exact ⟨[], by simp, by simp⟩
  | lineFeed more => exact ⟨[], by simp, by simp⟩
  | returnLineFeed more =>
    have hreturn : Text.Utf8.encode ['\r'] = [0x0D] := by decide
    refine ⟨['\r'], by simp, ?_⟩
    rw [Text.Utf8.encode_append, hreturn]
    simp

/-- Carriage returns behind a line that does not end in one are taken off. -/
theorem trimReturns_append {line returns : List Char} (hline : line.getLast? ≠ some '\r')
    (hreturns : ∀ c ∈ returns, c = '\r') :
    ((line ++ returns).reverse.dropWhile (· = '\r')).reverse = line := by
  have hall : ∀ c ∈ returns.reverse, decide (c = '\r') = true := by
    intro c hc
    rw [decide_eq_true_eq]
    exact hreturns c (List.mem_reverse.1 hc)
  have hkept : line.reverse.dropWhile (· = '\r') = line.reverse := by
    cases hrev : line.reverse with
    | nil => rfl
    | cons c rest =>
      have hc : ¬decide (c = '\r') = true := by
        rw [decide_eq_true_eq]
        rintro rfl
        rw [← List.head?_reverse, hrev] at hline
        exact hline rfl
      exact List.dropWhile_cons_of_neg hc
  rw [List.reverse_append, List.dropWhile_append_of_pos hall, hkept, List.reverse_reverse]

/-- A password of one line that does not end in a carriage return is read from the input, whatever ends the line and
stands behind it. -/
theorem firstLine?_of_ending {password : String} (hline : '\n' ∉ password.toList)
    (hreturn : password.toList.getLast? ≠ some '\r') {ending : List UInt8} (hending : LineEnding ending) :
    firstLine? (Text.Utf8.ofString password ++ ending) = some password := by
  obtain ⟨returns, hreturns, hread⟩ := hending.exists_takeWhile_eq hline
  unfold firstLine? Text.Utf8.ofString
  rw [hread, Text.Utf8.decode?_encode, Option.map_some, trimReturns_append hreturn hreturns, String.ofList_toList]

/-! ## The printed text -/

/-- The text of a new hash is one line. -/
theorem lineFeed_not_mem_hashText (salt : List UInt8) (password : String) :
    '\n' ∉ (hashText salt password).toList := by
  have hbase64 (bytes : List UInt8) : '\n' ∉ Encoding.Base64.standard.encode bytes := by
    intro h
    have hvalue := (HashText.isValueChar_of_mem_encode h).1
    revert hvalue
    decide
  rw [hashText, String.toList_ofList, chars_hash]
  simp [hbase64]

/-- With a password on its command line the command prints the stored text. -/
theorem command_of_argument {password : String} (hne : password ≠ "") (salt : List UInt8) (others : List String)
    (input : List UInt8) : command salt (password :: others) input = ⟨0, hashText salt password ++ "\n", ""⟩ := by
  have hempty : ¬password.isEmpty = true := by simp [hne]
  exact if_neg hempty

/-- Without one it prints the stored text for the first line of its input. -/
theorem command_of_input {password : String} (hne : password ≠ "") (salt : List UInt8) {input : List UInt8}
    (hinput : firstLine? input = some password) : command salt [] input = ⟨0, hashText salt password ++ "\n", ""⟩ := by
  have hempty : ¬password.isEmpty = true := by simp [hne]
  unfold command
  dsimp only
  rw [hinput]
  exact if_neg hempty

/-- For a password that is not empty, with a salt of 8 to 48 bytes, the command ends with code 0 and prints one line. The
line is the text of a hash, it is read back as this very hash, which states the terms and the salt that it was made on
and the digest that came of them, and the password is accepted against it. The command prints the same whether the
password is its first argument, whatever follows, or the first line of its input, whatever ends the line and follows it;
a password in the input has no line feed and does not end in a carriage return. -/
theorem command_prints {password : String} (hne : password ≠ "") {salt : List UInt8} (h1 : 8 ≤ salt.length)
    (h2 : salt.length ≤ 48) :
    ∃ line stored, '\n' ∉ line.toList ∧ HashText.ofChars line.toList = .ok stored ∧ stored.chars = line.toList ∧
      States stored .id .v19 defaultCost salt
        (Digest.Argon2.hash .id .v19 defaultCost 32 (Text.Utf8.ofString password) salt []) ∧
      verify password line = .ok () ∧
      (∀ others input, command salt (password :: others) input = ⟨0, line ++ "\n", ""⟩) ∧
      ('\n' ∉ password.toList → password.toList.getLast? ≠ some '\r' → ∀ ending, LineEnding ending →
        command salt [] (Text.Utf8.ofString password ++ ending) = ⟨0, line ++ "\n", ""⟩) := by
  have htext : (hashText salt password).toList = (hash salt password).chars := String.toList_ofList
  refine ⟨hashText salt password, hash salt password, lineFeed_not_mem_hashText salt password, ?_, htext.symm,
    states_hash salt password, verify_hashText h1 h2 password, command_of_argument hne salt, ?_⟩
  · rw [htext]
    exact ofChars_hash (by omega) h2 password
  · intro hline hreturn ending hending
    exact command_of_input hne salt (firstLine?_of_ending hline hreturn hending)

/-- A password with blanks and letters beyond ASCII, as an argument and as a line before bytes that are no text. -/
theorem command_prints_of_line :
    let salt : List UInt8 := List.replicate 16 0xFF
    let password := "pä5 5w\rörd "
    ∃ line, verify password line = .ok () ∧ command salt [password, "more"] [] = ⟨0, line ++ "\n", ""⟩ ∧
      command salt [] (Text.Utf8.ofString password ++ [0x0D, 0x0A, 0xFF]) = ⟨0, line ++ "\n", ""⟩ := by
  intro salt password
  obtain ⟨line, stored, -, -, -, -, hverify, hargument, hinput⟩ :=
    command_prints (show password ≠ "" by decide) (show 8 ≤ salt.length by decide) (show salt.length ≤ 48 by decide)
  exact ⟨line, hverify, hargument ["more"] [], hinput (by decide) (by decide) _ (.returnLineFeed [0xFF])⟩

end Gatehouse.Password
