import RequestBinding.Proofs.Except
import RequestBinding.Proofs.Number.IntegerText
import RequestBinding.Proofs.Text.Blank
import RequestBinding.Settings.Setting
import Mathlib

/-! Which texts are values of settings. A size is written in digits, a flag as one of a few words, a format by its name
and a level as it is; sizes may have blanks around them, and the case of words does not matter. -/

namespace RequestBinding

namespace Setting

/-- A text is a word with its letters in any case. -/
def Spells (text word : String) : Prop := List.Forall₂ (fun c d => c = d ∨ c = d.toUpper) text.toList word.toList

/-- A size of 64 bits in digits, behind a plus sign or none, with blanks on both sides of it or none. -/
def DenotesSize (text : String) (n : Nat) : Prop :=
  ∃ before sign digits after, text.toList = before ++ (sign ++ digits) ++ after ∧
    (∀ c ∈ before ++ after, Text.isBlank c = true) ∧ (sign = [] ∨ sign = ['+']) ∧ IntegerText.AllDigits digits ∧
    Nat.ofDigitChars 10 digits 0 = n ∧ n < UInt64.size

def DenotesFlag (text : String) : Bool → Prop
  | true => ∃ word ∈ ["true", "1", "yes", "on"], Spells text word
  | false => ∃ word ∈ ["false", "0", "no", "off"], Spells text word

def DenotesFormat (text : String) : LogFormat → Prop
  | .json => Spells text "json"
  | .pretty => Spells text "pretty"

/-- A text denotes a value of a setting. Every text is a level. -/
def Denotes (text : String) : (k : Setting) → k.Content → Prop
  | bodySize | partsBodySize | partsFieldSize | partsFields => DenotesSize text
  | logEnabled | logSpanEvents | logPlaces | logTargets => DenotesFlag text
  | logLevel => Eq text
  | logFormat => DenotesFormat text

theorem readSize_eq_ok_iff {text : String} {n : Nat} : readSize text = .ok n ↔ DenotesSize text n := by
  rw [readSize, mapError_eq_ok, IntegerText.readSize_eq_ok_iff]
  constructor
  · rintro ⟨sign, digits, htrim, hsign, hd, hn, hlt⟩
    obtain ⟨before, after, htext, hblank⟩ := Text.exists_around_trim text.toList
    exact ⟨before, sign, digits, after, htrim ▸ htext, hblank, hsign, hd, hn, hlt⟩
  · rintro ⟨before, sign, digits, after, htext, hblank, hsign, hd, hn, hlt⟩
    have hne : sign ++ digits ≠ [] := fun h => hd.1 (List.append_eq_nil_iff.1 h).2
    have hcore : ∀ c ∈ sign ++ digits, Text.isBlank c = false := by
      intro c hc
      rcases List.mem_append.1 hc with hc | hc
      · rcases hsign with rfl | rfl
        · cases hc
        · obtain rfl := List.mem_singleton.1 hc
          decide
      · exact Text.not_isBlank_of_isDigit (hd.2 c hc)
    exact ⟨sign, digits, htext ▸ Text.trim_around hblank hne hcore, hsign, hd, hn, hlt⟩

private theorem toLower_eq_iff {c d : Char} (hd : d.toLower = d) : c.toLower = d ↔ c = d ∨ c = d.toUpper := by
  constructor
  · rintro rfl
    by_cases hc : c.isUpper = true
    · rw [Char.toUpper_toLower_eq_toUpper, Char.toUpper_eq_of_not_isLower (Char.not_isLower_of_isUpper hc)]
      exact .inr rfl
    · exact .inl (Char.toLower_eq_of_not_isUpper hc).symm
  · rintro (rfl | rfl)
    · exact hd
    · rw [Char.toLower_toUpper_eq_toLower, hd]

private theorem map_toLower_eq_iff {text word : List Char} (hw : ∀ c ∈ word, c.toLower = c) :
    text.map Char.toLower = word ↔ List.Forall₂ (fun c d => c = d ∨ c = d.toUpper) text word := by
  induction text generalizing word with
  | nil => simp [eq_comm]
  | cons c text ih =>
    cases word with
    | nil => simp
    | cons d word =>
      obtain ⟨hd, hrest⟩ := List.forall_mem_cons.1 hw
      rw [List.map_cons, List.cons.injEq, List.forall₂_cons, toLower_eq_iff hd, ih hrest]

private theorem toLower_eq_iff_spells {text word : String} (hw : ∀ c ∈ word.toList, c.toLower = c) :
    text.toLower = word ↔ Spells text word := by
  have hlower : text.toLower.toList = text.toList.map Char.toLower := by simp [String.toLower]
  rw [Spells, ← map_toLower_eq_iff hw, ← hlower, String.toList_inj]

private theorem contains_toLower_iff (text : String) (words : List String)
    (hw : ∀ word ∈ words, ∀ c ∈ word.toList, c.toLower = c) :
    words.contains text.toLower = true ↔ ∃ word ∈ words, Spells text word := by
  rw [List.contains_iff_mem]
  constructor
  · intro h
    exact ⟨_, h, (toLower_eq_iff_spells (hw _ h)).1 rfl⟩
  · rintro ⟨word, hword, hspells⟩
    rwa [(toLower_eq_iff_spells (hw word hword)).2 hspells]

private theorem readFlag_eq_ok_iff {text : String} {value : Bool} :
    readFlag text = .ok value ↔ DenotesFlag text value := by
  have hyes := contains_toLower_iff text ["true", "1", "yes", "on"] (by simp)
  have hno := contains_toLower_iff text ["false", "0", "no", "off"] (by simp)
  have hapart : ∀ word ∈ ["true", "1", "yes", "on"], ¬ ["false", "0", "no", "off"].contains word = true := by decide
  unfold readFlag
  split
  · next h =>
    cases value with
    | true => exact iff_of_true rfl (hyes.1 h)
    | false => exact iff_of_false nofun fun hoff => hapart _ (List.contains_iff_mem.1 h) (hno.2 hoff)
  · next h =>
    split
    · next h' =>
      cases value with
      | true => exact iff_of_false nofun fun hon => h (hyes.2 hon)
      | false => exact iff_of_true rfl (hno.1 h')
    · next h' =>
      cases value with
      | true => exact iff_of_false nofun fun hon => h (hyes.2 hon)
      | false => exact iff_of_false nofun fun hoff => h' (hno.2 hoff)

private theorem readFormat_eq_ok_iff {text : String} {format : LogFormat} :
    readFormat text = .ok format ↔ DenotesFormat text format := by
  have hjson : text.toLower = "json" ↔ Spells text "json" := toLower_eq_iff_spells (by simp)
  have hpretty : text.toLower = "pretty" ↔ Spells text "pretty" := toLower_eq_iff_spells (by simp)
  have hnamed : Entries.get? text.toLower LogFormat.named =
      if text.toLower = "json" then some .json else if text.toLower = "pretty" then some .pretty else none := rfl
  rw [readFormat, hnamed]
  cases format with
  | json =>
    rw [DenotesFormat, ← hjson]
    split_ifs <;> simp_all
  | pretty =>
    rw [DenotesFormat, ← hpretty]
    split_ifs <;> simp_all

/-- A text is read as the value of a setting that it denotes, if it denotes one. -/
theorem read_eq_ok_iff {text : String} {k : Setting} {value : k.Content} :
    read text k = .ok value ↔ k.Denotes text value := by
  cases k with
  | bodySize | partsBodySize | partsFieldSize | partsFields => exact readSize_eq_ok_iff
  | logEnabled | logSpanEvents | logPlaces | logTargets => exact readFlag_eq_ok_iff
  | logLevel => exact ⟨Except.ok.inj, congrArg Except.ok⟩
  | logFormat => exact readFormat_eq_ok_iff

theorem Denotes.unique {text : String} {k : Setting} {value other : k.Content} (h : k.Denotes text value)
    (h' : k.Denotes text other) : value = other :=
  Except.ok.inj ((read_eq_ok_iff.2 h).symm.trans (read_eq_ok_iff.2 h'))

end Setting
end RequestBinding
