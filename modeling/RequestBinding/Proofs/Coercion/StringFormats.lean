import RequestBinding.Proofs.Base64
import RequestBinding.Proofs.Calendar.Spelling
import RequestBinding.Proofs.Coercion.Cases

/-! Strings of a format, from texts. Bytes in base 64 have one text each. A day has its plain text of four, two and two
digits, and other spellings besides. -/

namespace RequestBinding.Coercion

section Schema

variable {s : Schema} {text : String} {value : Value} (ht : s.type = .string)

include ht in
private theorem ofText_string (text : String) : ofText s text =
    atPlace ((stringOfText s.format text).mapError (.notText text (labelOf .string s.format))) := by
  rw [ofText, coerce_scalar (by rw [ht]; decide) (by rw [ht]; decide), ht]
  rfl

include ht in
private theorem ofText_string_eq_ok_iff : ofText s text = .ok value ↔ stringOfText s.format text = .ok value := by
  rw [ofText_string ht, atPlace_eq_ok, mapError_eq_ok]

include ht in
private theorem ofText_string_refused (h : ∀ value, ofText s text ≠ .ok value) :
    ∃ failure, ofText s text = .error [failure] ∧ failure.kind = .malformedValue ∧ failure.path = "" := by
  rw [ofText_string ht] at h ⊢
  cases hread : stringOfText s.format text with
  | ok value => exact absurd (by rw [hread]; rfl) (h value)
  | error fault => exact ⟨_, rfl, rfl, rfl⟩

private theorem stringOfText_byte_eq_ok_iff :
    stringOfText (some .byte) text = .ok value ↔ ∃ bytes, text = Base64.text bytes ∧ value = .bytes bytes := by
  simp only [stringOfText, mapError_eq_ok, map_eq_ok, Base64.ofText_eq_ok_iff, eq_comm (b := value)]

private theorem stringOfText_date_eq_ok_iff :
    stringOfText (some .date) text = .ok value ↔ ∃ d : Date, d.Spelled text.toList ∧ value = .date d := by
  simp only [stringOfText, mapError_eq_ok, map_eq_ok, Date.ofText, Date.read_eq_ok_iff, eq_comm (b := value)]

private theorem toJson_bytes_eq_iff {bytes : List UInt8} :
    (Value.bytes bytes).toJson = .string text ↔ text = Base64.text bytes := by
  rw [Value.toJson, Json.string.injEq, eq_comm]

private theorem toJson_date_eq_iff {d : Date} : (Value.date d).toJson = .string text ↔ text.toList = d.write := by
  rw [Value.toJson, Json.string.injEq, Date.text, ← String.toList_inj, String.toList_ofList, eq_comm]

/-- Under a schema of bytes in base 64 texts and lists of bytes stand for one another. Each list of bytes is read from the
text that it is written in, and from this text alone; for a text that nothing is written in the one failure is a malformed
value at the place itself. -/
theorem ofText_pairs_bytes_with_texts (ht : s.type = .string) (hf : s.format = some .byte) :
    (∀ bytes, ∃ text, (Value.bytes bytes).toJson = .string text ∧ ofText s text = .ok (.bytes bytes)) ∧
    (∀ text bytes, ofText s text = .ok (.bytes bytes) → (Value.bytes bytes).toJson = .string text) ∧
    (∀ text text' bytes, ofText s text = .ok (.bytes bytes) → ofText s text' = .ok (.bytes bytes) → text = text') ∧
    ∀ text, (∀ bytes, ofText s text ≠ .ok (.bytes bytes)) → ∃ failure, ofText s text = .error [failure] ∧
      failure.kind = .malformedValue ∧ failure.path = "" := by
  have hread {text : String} {value : Value} :
      ofText s text = .ok value ↔ ∃ bytes, text = Base64.text bytes ∧ value = .bytes bytes := by
    rw [ofText_string_eq_ok_iff ht, hf, stringOfText_byte_eq_ok_iff]
  have honly {text : String} {bytes : List UInt8} (h : ofText s text = .ok (.bytes bytes)) : text = Base64.text bytes := by
    obtain ⟨_, htext, heq⟩ := hread.1 h
    obtain rfl := Value.bytes.inj heq
    exact htext
  refine ⟨?_, ?_, ?_, ?_⟩
  · intro bytes
    exact ⟨Base64.text bytes, toJson_bytes_eq_iff.2 rfl, hread.2 ⟨bytes, rfl, rfl⟩⟩
  · intro text bytes h
    exact toJson_bytes_eq_iff.2 (honly h)
  · intro text text' bytes h h'
    rw [honly h, honly h']
  · intro text h
    apply ofText_string_refused ht
    intro value hvalue
    obtain ⟨bytes, -, rfl⟩ := hread.1 hvalue
    exact h bytes hvalue

/-- Bytes with padding behind them, and a text that differs from theirs in bits that are left over. -/
theorem ofText_pairs_bytes_with_texts_of_leftover_bits :
    let s := (Schema.ofType .string).withFormat .byte
    s.type = .string ∧ s.format = some .byte ∧ ofText s "aGk=" = .ok (.bytes [0x68, 0x69]) ∧
      (Value.bytes [0x68, 0x69]).toJson = .string "aGk=" ∧
      ∃ failure, ofText s "aGl=" = .error [failure] ∧ failure.kind = .malformedValue ∧ failure.path = "" := by
  intro s
  have hwritten : Base64.text [0x68, 0x69] = "aGk=" := by decide
  have hrefused : Base64.ofText "aGl=" = .error (.lastSymbol 0x6C 2) := by decide
  have hpairs := ofText_pairs_bytes_with_texts (s := s) rfl rfl
  have hread : ofText s "aGk=" = .ok (.bytes [0x68, 0x69]) := by
    obtain ⟨text, htext, hread⟩ := hpairs.1 [0x68, 0x69]
    rwa [toJson_bytes_eq_iff.1 htext, hwritten] at hread
  refine ⟨rfl, rfl, hread, hpairs.2.1 _ _ hread, hpairs.2.2.2 "aGl=" ?_⟩
  intro bytes h
  obtain ⟨_, htext, -⟩ := stringOfText_byte_eq_ok_iff.1 ((ofText_string_eq_ok_iff rfl).1 h)
  rw [Base64.ofText_eq_ok_iff.2 htext] at hrefused
  cases hrefused

/-- Under a schema of a day exactly the spellings of days are read. The plain spelling of a day is read as this day, and
it is the text that a day of a year of four digits is written in; for a text that spells no day the one failure is a
malformed value at the place itself. -/
theorem ofText_reads_spelled_days (ht : s.type = .string) (hf : s.format = some .date) :
    (∀ text value, ofText s text = .ok value ↔ ∃ d : Date, d.Spelled text.toList ∧ value = .date d) ∧
    (∀ text (d : Date), d.Plain text.toList → ofText s text = .ok (.date d) ∧ (Value.date d).toJson = .string text) ∧
    (∀ text (d : Date), 0 ≤ d.year → d.year ≤ 9999 → (Value.date d).toJson = .string text → d.Plain text.toList) ∧
    ∀ text, (∀ d : Date, ¬ d.Spelled text.toList) → ∃ failure, ofText s text = .error [failure] ∧
      failure.kind = .malformedValue ∧ failure.path = "" := by
  have hread {text : String} {value : Value} :
      ofText s text = .ok value ↔ ∃ d : Date, d.Spelled text.toList ∧ value = .date d := by
    rw [ofText_string_eq_ok_iff ht, hf, stringOfText_date_eq_ok_iff]
  refine ⟨fun _ _ => hread, ?_, ?_, ?_⟩
  · intro text d hplain
    exact ⟨hread.2 ⟨d, hplain.spelled, rfl⟩, toJson_date_eq_iff.2 (Date.plain_iff.1 hplain).1⟩
  · intro text d hfrom hto hjson
    exact Date.plain_iff.2 ⟨toJson_date_eq_iff.1 hjson, hfrom, hto⟩
  · intro text h
    apply ofText_string_refused ht
    intro value hvalue
    obtain ⟨d, hspelled, -⟩ := hread.1 hvalue
    exact h d hspelled

/-- A day after the last of its month is spelled by no text, and the last one is. -/
theorem ofText_reads_spelled_days_of_leap_year :
    let s := (Schema.ofType .string).withFormat .date
    let leap : Date := ⟨2016, 2, 29, by decide, by decide⟩
    s.type = .string ∧ s.format = some .date ∧ leap.Plain "2016-02-29".toList ∧
      ofText s "2016-02-29" = .ok (.date leap) ∧ ∃ failure, ofText s "2014-02-29" = .error [failure] ∧
        failure.kind = .malformedValue ∧ failure.path = "" := by
  intro s leap
  have hdays := ofText_reads_spelled_days (s := s) rfl rfl
  have hplain : leap.Plain "2016-02-29".toList := Date.plain_iff.2 (by decide)
  have hrefused : Date.read "2014-02-29".toList = .error .outOfRange := by decide
  refine ⟨rfl, rfl, hplain, (hdays.2.1 _ _ hplain).1, hdays.2.2.2 _ ?_⟩
  intro d hspelled
  rw [Date.read_eq_ok_iff.2 hspelled] at hrefused
  cases hrefused

/-- A text that is not plain is read as a day too, whose own text is another one. -/
theorem ofText_reads_day_not_plain :
    let s := (Schema.ofType .string).withFormat .date
    let day : Date := ⟨2014, 1, 2, by decide, by decide⟩
    (∀ d : Date, ¬ d.Plain "2014-1-2".toList) ∧ ofText s "2014-1-2" = .ok (.date day) ∧
      (Value.date day).toJson = .string "2014-01-02" ∧ ofText s "2014-01-02" = .ok (.date day) := by
  intro s day
  have hread : Date.read "2014-1-2".toList = .ok day := by decide
  have hplain : day.Plain "2014-01-02".toList := Date.plain_iff.2 (by decide)
  refine ⟨?_, ?_, ?_, ?_⟩
  · intro d hd
    have hsame := Date.read_eq_ok_iff.2 hd.spelled
    obtain rfl := Except.ok.inj (hread.symm.trans hsame)
    exact absurd (Date.plain_iff.1 hd).1 (by decide)
  · exact (ofText_string_eq_ok_iff rfl).2 (stringOfText_date_eq_ok_iff.2 ⟨day, Date.read_eq_ok_iff.1 hread, rfl⟩)
  · exact toJson_date_eq_iff.2 (Date.plain_iff.1 hplain).1
  · exact (ofText_string_eq_ok_iff rfl).2 (stringOfText_date_eq_ok_iff.2 ⟨day, hplain.spelled, rfl⟩)

end Schema

end RequestBinding.Coercion
