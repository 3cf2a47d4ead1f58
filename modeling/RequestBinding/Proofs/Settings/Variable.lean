import RequestBinding.Proofs.Settings.Values
import RequestBinding.Settings.Loader
import Mathlib.Data.List.Nodup

/-! Settings taken from variables. Each setting has the value of the last variable that is addressed to it, and the
first variable whose value cannot be read stops the whole. -/

namespace RequestBinding

namespace Setting

/-- A name is addressed to a setting: it is the start, two underscores, and the path to the setting in any case. -/
def Addressed (k : Setting) (start name : String) : Prop :=
  ∃ path, name = start ++ "__" ++ path ∧ Text.upperCase path = Text.upperCase ("__".intercalate k.path)

private theorem mem_all (k : Setting) : k ∈ all := by
  cases k <;> decide

private theorem variableName_injective : Function.Injective variableName := by
  intro k k' h
  have hnodup : (all.map variableName).Nodup := by decide +kernel
  exact List.inj_on_of_nodup_map hnodup (mem_all k) (mem_all k') h

private theorem find?_variableName {path : String} {k : Setting} :
    all.find? (fun k => k.variableName = path) = some k ↔ k.variableName = path := by
  constructor
  · intro h
    simpa using List.find?_some h
  · intro h
    cases hf : all.find? (fun k => k.variableName = path) with
    | none =>
      rw [List.find?_eq_none] at hf
      exact absurd h (by simpa using hf k (mem_all k))
    | some k' =>
      have hk' : k'.variableName = path := by simpa using List.find?_some hf
      rw [variableName_injective (hk'.trans h.symm)]

private theorem ofVariable?_eq_some_iff {start name : String} {k : Setting} :
    ofVariable? start name = some k ↔ k.Addressed start name := by
  have hopening : (start ++ "__").toList = start.toList ++ ['_', '_'] := by simp
  unfold ofVariable?
  constructor
  · intro h
    dsimp only at h
    split at h
    · next hprefix =>
      obtain ⟨rest, hrest⟩ := List.isPrefixOf_iff_prefix.1 hprefix
      refine ⟨String.ofList rest, ?_, ?_⟩
      · apply String.toList_injective
        simp [← hrest]
      · have hpath := find?_variableName.1 h
        rw [← hrest, List.drop_left] at hpath
        exact hpath.symm
    · cases h
  · rintro ⟨path, rfl, hpath⟩
    have hname : (start ++ "__" ++ path).toList = (start.toList ++ ['_', '_']) ++ path.toList := by simp
    rw [hname, if_pos (List.isPrefixOf_iff_prefix.2 (List.prefix_append ..)), List.drop_left, String.ofList_toList]
    exact find?_variableName.2 hpath.symm

theorem Addressed.unique {start name : String} {k k' : Setting} (h : k.Addressed start name)
    (h' : k'.Addressed start name) : k = k' := by
  rw [← ofVariable?_eq_some_iff] at h h'
  exact Option.some.inj (h.symm.trans h')

instance (start name : String) : Decidable (∃ k : Setting, k.Addressed start name) :=
  decidable_of_iff ((ofVariable? start name).isSome = true) <| by
    simp only [Option.isSome_iff_exists, ofVariable?_eq_some_iff]

/-- A variable has a value for the setting that it is addressed to, if it is addressed to one. -/
def Readable (start : String) (v : String × String) : Prop :=
  ∀ k : Setting, k.Addressed start v.1 → ∃ value, k.Denotes v.2 value

private theorem Readable.of_denotes {start : String} {v : String × String} {k : Setting} {value : k.Content}
    (hk : k.Addressed start v.1) (hvalue : k.Denotes v.2 value) : Readable start v := by
  intro own hown
  obtain rfl := hk.unique hown
  exact ⟨value, hvalue⟩

/-- The last of some variables that is addressed to the setting. -/
def LastFor (k : Setting) (start : String) (entries : List (String × String)) (v : String × String) : Prop :=
  k.Addressed start v.1 ∧ ∃ before after, entries = before ++ v :: after ∧ ∀ u ∈ after, ¬ k.Addressed start u.1

end Setting

namespace Settings

variable {start : String} {s s' : Settings} {v : String × String} {entries : List (String × String)}

/-- One setting takes its value from a variable that is addressed to it, and keeps it otherwise. -/
def TakesOne (start : String) (v : String × String) (s s' : Settings) (k : Setting) : Prop :=
  (k.Addressed start v.1 → k.Denotes v.2 (s'.get k)) ∧ (¬ k.Addressed start v.1 → s'.get k = s.get k)

/-- One setting takes its value from the last variable that is addressed to it, and keeps it if there is none. -/
def TakesLast (start : String) (entries : List (String × String)) (s s' : Settings) (k : Setting) : Prop :=
  (∀ v, k.LastFor start entries v → k.Denotes v.2 (s'.get k)) ∧
    ((∀ v ∈ entries, ¬ k.Addressed start v.1) → s'.get k = s.get k)

private theorem withVariable_readable (h : Setting.Readable start v) (s : Settings) :
    ∃ s', withVariable start s v = .ok s' ∧ ∀ k, TakesOne start v s s' k := by
  unfold withVariable
  cases hk : Setting.ofVariable? start v.1 with
  | none =>
    refine ⟨s, rfl, fun k => ⟨fun ha => ?_, fun _ => rfl⟩⟩
    rw [Setting.ofVariable?_eq_some_iff.2 ha] at hk
    cases hk
  | some own =>
    have hown := Setting.ofVariable?_eq_some_iff.1 hk
    obtain ⟨value, hvalue⟩ := h own hown
    have hread := Setting.read_eq_ok_iff.2 hvalue
    refine ⟨s.set own value, by simp only [hread], fun k => ⟨fun ha => ?_, fun hn => ?_⟩⟩
    · obtain rfl := ha.unique hown
      rwa [get_set_self]
    · exact get_set_of_ne s value fun he => hn (he ▸ hown)

private theorem withVariable_unreadable (h : ¬ Setting.Readable start v) (s : Settings) :
    ∃ k reason, k.Addressed start v.1 ∧ (¬ ∃ value, k.Denotes v.2 value) ∧ Setting.read v.2 k = .error reason ∧
      withVariable start s v = .error ⟨v.1, reason⟩ := by
  obtain ⟨k, hk⟩ := not_forall.1 h
  obtain ⟨hk, hnone⟩ := Classical.not_imp.1 hk
  cases hr : Setting.read v.2 k with
  | ok value => exact absurd ⟨value, Setting.read_eq_ok_iff.1 hr⟩ hnone
  | error reason =>
    refine ⟨k, reason, hk, hnone, hr, ?_⟩
    unfold withVariable
    simp only [Setting.ofVariable?_eq_some_iff.2 hk, hr]

private theorem withVariables_cons (start : String) (s : Settings) (v : String × String)
    (rest : List (String × String)) :
    withVariables start s (v :: rest) =
      (withVariable start s v).bind fun next => withVariables start next rest := by
  rw [withVariables, List.foldlM_cons]
  rfl

/-- What a first variable and those after it do to a setting. -/
theorem TakesLast.cons {next : Settings} {rest : List (String × String)} {k : Setting}
    (hone : TakesOne start v s next k) (hlast : TakesLast start rest next s' k) :
    TakesLast start (v :: rest) s s' k := by
  constructor
  · rintro u ⟨hu, before, after, hsplit, hafter⟩
    cases before with
    | nil =>
      obtain ⟨rfl, rfl⟩ := List.cons.inj hsplit
      rw [hlast.2 hafter]
      exact hone.1 hu
    | cons head before => exact hlast.1 u ⟨hu, before, after, (List.cons.inj hsplit).2, hafter⟩
  · intro hnone
    obtain ⟨hhead, hrest⟩ := List.forall_mem_cons.1 hnone
    exact (hlast.2 hrest).trans (hone.2 hhead)

private theorem withVariables_readable (h : ∀ v ∈ entries, Setting.Readable start v) (s : Settings) :
    ∃ s', withVariables start s entries = .ok s' ∧ ∀ k, TakesLast start entries s s' k := by
  induction entries generalizing s with
  | nil => exact ⟨s, rfl, fun k => ⟨fun v hv => by simp [Setting.LastFor] at hv, fun _ => rfl⟩⟩
  | cons v rest ih =>
    obtain ⟨hhead, hrest⟩ := List.forall_mem_cons.1 h
    obtain ⟨next, hnext, hone⟩ := withVariable_readable hhead s
    obtain ⟨s', hs', hlast⟩ := ih hrest next
    refine ⟨s', ?_, fun k => .cons (hone k) (hlast k)⟩
    rw [withVariables_cons, hnext]
    exact hs'

private theorem withVariables_unreadable (h : ¬ ∀ v ∈ entries, Setting.Readable start v) (s : Settings) :
    ∃ before v after k reason, entries = before ++ v :: after ∧ (∀ u ∈ before, Setting.Readable start u) ∧
      k.Addressed start v.1 ∧ (¬ ∃ value, k.Denotes v.2 value) ∧ Setting.read v.2 k = .error reason ∧
      withVariables start s entries = .error ⟨v.1, reason⟩ := by
  induction entries generalizing s with
  | nil => simp at h
  | cons v rest ih =>
    by_cases hv : Setting.Readable start v
    · obtain ⟨next, hnext, -⟩ := withVariable_readable hv s
      have hrest : ¬ ∀ u ∈ rest, Setting.Readable start u := fun hall => h (List.forall_mem_cons.2 ⟨hv, hall⟩)
      obtain ⟨before, u, after, k, reason, rfl, hbefore, hk, hnone, hr, hfail⟩ := ih hrest next
      refine ⟨v :: before, u, after, k, reason, rfl, List.forall_mem_cons.2 ⟨hv, hbefore⟩, hk, hnone, hr, ?_⟩
      rw [withVariables_cons, hnext]
      exact hfail
    · obtain ⟨k, reason, hk, hnone, hr, hfail⟩ := withVariable_unreadable hv s
      refine ⟨[], v, rest, k, reason, rfl, by simp, hk, hnone, hr, ?_⟩
      rw [withVariables_cons, hfail]
      rfl

private theorem withVariables_filter (start : String) (s : Settings) (entries : List (String × String)) :
    withVariables start s (entries.filter fun v => ∃ k : Setting, k.Addressed start v.1) =
      withVariables start s entries := by
  induction entries generalizing s with
  | nil => rfl
  | cons v rest ih =>
    rw [withVariables_cons]
    by_cases hk : ∃ k : Setting, k.Addressed start v.1
    · rw [List.filter_cons_of_pos (by simpa using hk), withVariables_cons]
      simp only [ih]
    · have hnone : Setting.ofVariable? start v.1 = none :=
        Option.eq_none_iff_forall_ne_some.2 fun k h => hk ⟨k, Setting.ofVariable?_eq_some_iff.1 h⟩
      have hsame : withVariable start s v = .ok s := by
        unfold withVariable
        rw [hnone]
      rw [List.filter_cons_of_neg (by simpa using hk), hsame, ih]
      rfl

end Settings

namespace Loader

private theorem load_eq_ok_iff {l : Loader} {environment : List (String × String)} {s : Settings} :
    l.load environment = .ok s ↔ l.loadUnchecked environment = .ok s ∧ s.fault? = none := by
  unfold load
  rw [bind_eq_ok]
  constructor
  · rintro ⟨found, hfound, h⟩
    split at h
    · cases h
    · next hvalid =>
      cases h
      exact ⟨hfound, hvalid⟩
  · rintro ⟨hfound, hvalid⟩
    refine ⟨s, hfound, ?_⟩
    rw [hvalid]

/-- Later layers win. Variables from files come before those of the environment. Where each variable that is addressed
to a setting has a value for it, every setting is given by the last variable addressed to it, and else stays as it was
before; otherwise loading fails for the first variable that has none, whatever comes after it. All other variables
change nothing, and without a common start no variable counts. What is loaded is the same where it is checked, unless
it fails the check. -/
theorem load_takes_last_variables (l : Loader) (environment : List (String × String)) :
    let entries := l.entries ++ environment
    (match l.start with
      | none => l.loadUnchecked environment = .ok l.settings
      | some start =>
        ((∀ v ∈ entries, Setting.Readable start v) →
          ∃ s, l.loadUnchecked environment = .ok s ∧ ∀ k, Settings.TakesLast start entries l.settings s k) ∧
        ((¬ ∀ v ∈ entries, Setting.Readable start v) →
          ∃ before v after k reason, entries = before ++ v :: after ∧ (∀ u ∈ before, Setting.Readable start u) ∧
            k.Addressed start v.1 ∧ (¬ ∃ value, k.Denotes v.2 value) ∧ Setting.read v.2 k = .error reason ∧
            l.loadUnchecked environment = .error (.badVariable ⟨v.1, reason⟩)) ∧
        ∀ others : List (String × String),
          others.filter (fun v : String × String => ∃ k : Setting, k.Addressed start v.1) =
            entries.filter (fun v : String × String => ∃ k : Setting, k.Addressed start v.1) →
          { l with entries := [] }.loadUnchecked others = l.loadUnchecked environment) ∧
    ∀ s, l.load environment = .ok s ↔ l.loadUnchecked environment = .ok s ∧ s.fault? = none := by
  intro entries
  refine ⟨?_, fun s => load_eq_ok_iff⟩
  split
  · next hstart => simp only [loadUnchecked, hstart]
  · next start hstart =>
    have hload : l.loadUnchecked environment =
        (l.settings.withVariables start entries).mapError .badVariable := by
      simp only [loadUnchecked, hstart, entries]
    refine ⟨fun hall => ?_, fun hnot => ?_, fun others hothers => ?_⟩
    · obtain ⟨s, hs, htakes⟩ := Settings.withVariables_readable hall l.settings
      refine ⟨s, ?_, htakes⟩
      rw [hload, hs]
      rfl
    · obtain ⟨before, v, after, k, reason, hsplit, hbefore, hk, hnone, hr, hfail⟩ :=
        Settings.withVariables_unreadable hnot l.settings
      refine ⟨before, v, after, k, reason, hsplit, hbefore, hk, hnone, hr, ?_⟩
      rw [hload, hfail]
      rfl
    · rw [hload, ← Settings.withVariables_filter, ← hothers, Settings.withVariables_filter]
      simp only [loadUnchecked, hstart, List.nil_append]

/-- A size in a file and behind it in the environment, a flag in other words, and a variable of another program; then
a format that is none, behind which one stands that is. -/
theorem load_takes_last_variables_of_layers :
    let l : Loader := ⟨.standard, some "APP", [("APP__BINDER__MAX_BODY_SIZE", "5"), ("APP__logging__enabled", "No")]⟩
    (∃ s, l.loadUnchecked [("APP__binder__max_body_size", " +10 "), ("PATH", "5")] = .ok s ∧
      s.get .bodySize = (10 : Nat) ∧ s.get .logEnabled = false ∧ s.get .logLevel = "info") ∧
    ∃ reason, l.loadUnchecked [("APP__LOGGING__FORMAT", "xml"), ("APP__LOGGING__FORMAT", "json")] =
      .error (.badVariable ⟨"APP__LOGGING__FORMAT", reason⟩) := by
  intro l
  have hsize : Setting.bodySize.Addressed "APP" "APP__BINDER__MAX_BODY_SIZE" :=
    Setting.ofVariable?_eq_some_iff.1 (by decide +kernel)
  have hsize' : Setting.bodySize.Addressed "APP" "APP__binder__max_body_size" :=
    Setting.ofVariable?_eq_some_iff.1 (by decide +kernel)
  have hflag : Setting.logEnabled.Addressed "APP" "APP__logging__enabled" :=
    Setting.ofVariable?_eq_some_iff.1 (by decide +kernel)
  have hformat : Setting.logFormat.Addressed "APP" "APP__LOGGING__FORMAT" :=
    Setting.ofVariable?_eq_some_iff.1 (by decide +kernel)
  have hpath : ∀ k : Setting, ¬ k.Addressed "APP" "PATH" := fun k hk =>
    absurd (Setting.ofVariable?_eq_some_iff.2 hk) (by cases k <;> decide +kernel)
  have hfive : Setting.bodySize.Denotes "5" (5 : Nat) :=
    ⟨[], [], ['5'], [], by simp, by simp, .inl rfl, by simp [IntegerText.AllDigits], by simp [Nat.ofDigitChars],
      by decide⟩
  have hten : Setting.bodySize.Denotes " +10 " (10 : Nat) :=
    ⟨[' '], ['+'], ['1', '0'], [' '], by simp, by simp [Text.isBlank], .inr rfl, by simp [IntegerText.AllDigits],
      by simp [Nat.ofDigitChars], by decide⟩
  have hno : Setting.logEnabled.Denotes "No" false := ⟨"no", by simp, by simp [Setting.Spells]⟩
  have hfile : ∀ v ∈ l.entries, Setting.Readable "APP" v :=
    List.forall_mem_cons.2 ⟨.of_denotes hsize hfive, List.forall_mem_singleton.2 (.of_denotes hflag hno)⟩
  constructor
  · let environment := [("APP__binder__max_body_size", " +10 "), ("PATH", "5")]
    have hbehind : ∀ k ≠ Setting.bodySize, ∀ v ∈ environment, ¬ k.Addressed "APP" v.1 := fun k hk =>
      List.forall_mem_cons.2 ⟨fun h => hk (h.unique hsize'), List.forall_mem_singleton.2 (hpath _)⟩
    obtain ⟨⟨hreads, -⟩, -⟩ := load_takes_last_variables l environment
    obtain ⟨s, hs, htakes⟩ := hreads <| List.forall_mem_append.2 ⟨hfile, List.forall_mem_cons.2
      ⟨.of_denotes hsize' hten, List.forall_mem_singleton.2 fun k hk => absurd hk (hpath k)⟩⟩
    refine ⟨s, hs, ?_, ?_, ?_⟩
    · refine ((htakes .bodySize).1 _ ⟨hsize', l.entries, [("PATH", "5")], rfl, ?_⟩).unique hten
      exact List.forall_mem_singleton.2 (hpath _)
    · refine ((htakes .logEnabled).1 _ ⟨hflag, l.entries.take 1, environment, rfl, ?_⟩).unique hno
      exact hbehind _ (by decide)
    · refine (htakes .logLevel).2 (List.forall_mem_append.2 ⟨?_, hbehind _ (by decide)⟩)
      exact List.forall_mem_cons.2 ⟨fun h => absurd (h.unique hsize) (by decide),
        List.forall_mem_singleton.2 fun h => absurd (h.unique hflag) (by decide)⟩
  · obtain ⟨⟨-, hfails, -⟩, -⟩ :=
      load_takes_last_variables l [("APP__LOGGING__FORMAT", "xml"), ("APP__LOGGING__FORMAT", "json")]
    have hxml : ¬ ∃ value, Setting.logFormat.Denotes "xml" value := by
      rintro ⟨_ | _, h⟩ <;> simp [Setting.Denotes, Setting.DenotesFormat, Setting.Spells] at h
    obtain ⟨before, v, after, k, reason, hsplit, -, hk, hnone, -, hfail⟩ :=
      hfails fun hall => hxml (hall ("APP__LOGGING__FORMAT", "xml") (by simp) .logFormat hformat)
    have hv : v ∈ l.entries ++ [("APP__LOGGING__FORMAT", "xml"), ("APP__LOGGING__FORMAT", "json")] := hsplit ▸ by simp
    rcases List.mem_append.1 hv with hv | hv
    · exact absurd (hfile v hv k hk) hnone
    · have hname : v.1 = "APP__LOGGING__FORMAT" := by
        rcases List.mem_cons.1 hv with rfl | hv
        · rfl
        · rw [List.mem_singleton.1 hv]
      exact ⟨reason, hname ▸ hfail⟩

end Loader
end RequestBinding
