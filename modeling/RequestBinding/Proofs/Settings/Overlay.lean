import Mathlib
import RequestBinding.Proofs.Json.Sections
import RequestBinding.Proofs.Toml.Sorted
import RequestBinding.Settings.Loader
import RequestBinding.Settings.Setting

/-! Settings changed by documents. A document gives each setting that it names, names no others, and leaves those that
it does not name as they were, unless an array stands in the place of a section. -/

namespace RequestBinding

open Json

section Limits

private theorem PartLimits.laid {p p' : PartLimits} {given : Json} (hs : given.Sorted)
    (h : PartLimits.document.Laid p.toJson given p') :
    (∃ items, given = .array items) ∨
      ∃ members, given = .object members ∧
        (∀ name value, Entries.get? name members = some value →
          name ∈ ["max_body_size", "max_field_size", "max_fields"]) ∧
        Takes .size (Entries.get? "max_body_size" members) p.bodySize p'.bodySize ∧
        Takes .size (Entries.get? "max_field_size" members) p.fieldSize p'.fieldSize ∧
        Takes .size (Entries.get? "max_fields" members) p.fields p'.fields := by
  refine (Record.Laid.cases h rfl (by decide) ⟨rfl, rfl, rfl, trivial⟩ hs).imp_right ?_
  rintro ⟨members, hgiven, hknown, ⟨a, b, c, -⟩, rfl, ha, hb, hc, -⟩
  exact ⟨members, hgiven, hknown, (leaf_size _).takes ha.2, (leaf_size _).takes hb.2, (leaf_size _).takes hc.2⟩

/-- The limits of forms that a document gives, by their paths. -/
theorem PartLimits.gives {p p' : PartLimits} {given : Json} (hs : given.Sorted)
    (h : PartLimits.document.Laid p.toJson given p') :
    given.Gives .size ["max_body_size"] p.bodySize p'.bodySize ∧
      given.Gives .size ["max_field_size"] p.fieldSize p'.fieldSize ∧
      given.Gives .size ["max_fields"] p.fields p'.fields := by
  rcases PartLimits.laid hs h with ⟨items, rfl⟩ | ⟨members, rfl, -, hbody, hfield, hfields⟩
  · exact ⟨gives_array, gives_array, gives_array⟩
  · exact ⟨hbody.gives, hfield.gives, hfields.gives⟩

theorem PartLimits.within {p p' : PartLimits} {given : Json} (hs : given.Sorted)
    (h : PartLimits.document.Laid p.toJson given p') :
    given.Within [["max_body_size"], ["max_field_size"], ["max_fields"]] := by
  rcases PartLimits.laid hs h with ⟨items, rfl⟩ | ⟨members, rfl, hknown, hbody, hfield, hfields⟩
  · exact within_array (List.mem_cons_self ..)
  · refine within_object (List.mem_cons_self ..) fun name value hv => ?_
    have hname := hknown name value hv
    simp only [List.mem_cons, List.not_mem_nil, or_false] at hname
    rcases hname with rfl | rfl | rfl
    · exact ⟨_, hbody.within hv nofun, by decide⟩
    · exact ⟨_, hfield.within hv nofun, by decide⟩
    · exact ⟨_, hfields.within hv nofun, by decide⟩

private theorem Limits.laid {l l' : Limits} {given : Json} (hs : given.Sorted)
    (h : Limits.document.Laid l.toJson given l') :
    (∃ items, given = .array items) ∨
      ∃ members, given = .object members ∧
        (∀ name value, Entries.get? name members = some value → name ∈ ["max_body_size", "multipart"]) ∧
        Takes .size (Entries.get? "max_body_size" members) l.bodySize l'.bodySize ∧
        PartLimits.document.Laid l.parts.toJson (sectionOf "multipart" members) l'.parts := by
  refine (Record.Laid.cases h rfl (by decide) ⟨rfl, rfl, trivial⟩ hs).imp_right ?_
  rintro ⟨members, hgiven, hknown, ⟨a, b, -⟩, rfl, ha, hb, -⟩
  exact ⟨members, hgiven, hknown, (leaf_size _).takes ha.2, .ofSection hb.2⟩

/-- The limits that a document gives, by their paths. -/
theorem Limits.gives {l l' : Limits} {given : Json} (hs : given.Sorted) (h : Limits.document.Laid l.toJson given l') :
    given.Gives .size ["max_body_size"] l.bodySize l'.bodySize ∧
      given.Gives .size ["multipart", "max_body_size"] l.parts.bodySize l'.parts.bodySize ∧
      given.Gives .size ["multipart", "max_field_size"] l.parts.fieldSize l'.parts.fieldSize ∧
      given.Gives .size ["multipart", "max_fields"] l.parts.fields l'.parts.fields := by
  rcases Limits.laid hs h with ⟨items, rfl⟩ | ⟨members, rfl, -, hbody, hparts⟩
  · exact ⟨gives_array, gives_array, gives_array, gives_array⟩
  · obtain ⟨hparts, hfield, hfields⟩ := PartLimits.gives (sectionOf_sorted hs _) hparts
    exact ⟨hbody.gives, hparts.inSection, hfield.inSection, hfields.inSection⟩

theorem Limits.within {l l' : Limits} {given : Json} (hs : given.Sorted) (h : Limits.document.Laid l.toJson given l') :
    given.Within [["max_body_size"], ["multipart", "max_body_size"], ["multipart", "max_field_size"],
      ["multipart", "max_fields"]] := by
  rcases Limits.laid hs h with ⟨items, rfl⟩ | ⟨members, rfl, hknown, hbody, hparts⟩
  · exact within_array (List.mem_cons_self ..)
  · refine within_object (List.mem_cons_self ..) fun name value hv => ?_
    have hname := hknown name value hv
    simp only [List.mem_cons, List.not_mem_nil, or_false] at hname
    rcases hname with rfl | rfl
    · exact ⟨_, hbody.within hv nofun, by decide⟩
    · have hwithin := PartLimits.within (sectionOf_sorted hs _) hparts
      rw [sectionOf, hv] at hwithin
      exact ⟨_, hwithin, by decide⟩

private theorem Limits.forgets {l m l' m' : Limits} {given : Json} (hs : given.Sorted)
    (h : Limits.document.Laid l.toJson given l') (h' : Limits.document.Laid m.toJson given m') :
    (∀ name, given.arrayBefore [name] = true → l' = m') ∧
      ∀ name, given.arrayBefore ["multipart", name] = true → l'.parts = m'.parts := by
  rcases Limits.laid hs h with ⟨items, rfl⟩ | ⟨members, rfl, -, -, hparts⟩
  · obtain rfl := h.array h'
    exact ⟨fun _ _ => rfl, fun _ _ => rfl⟩
  · refine ⟨fun name hbefore => ?_, fun name hbefore => ?_⟩
    · rw [arrayBefore_member] at hbefore
      cases hbefore
    · rw [arrayBefore_sectionOf] at hbefore
      rcases Limits.laid hs h' with ⟨items, hitems⟩ | ⟨_, hsame, -, -, hparts'⟩
      · cases hitems
      · cases hsame
        rcases PartLimits.laid (sectionOf_sorted hs _) hparts with ⟨items, hitems⟩ | ⟨inner, hinner, -⟩
        · rw [hitems] at hparts hparts'
          exact hparts.array hparts'
        · rw [hinner, arrayBefore_member] at hbefore
          cases hbefore

end Limits

section Log

private theorem leaf_format (f : LogFormat) : Leaf (.choice LogFormat.named) (.string f.name) f :=
  ⟨rfl, nofun, fun _ h => by cases f <;> exact (Except.ok.inj h).symm⟩

private theorem LogSettings.laid {s s' : LogSettings} {given : Json} (hs : given.Sorted)
    (h : LogSettings.document.Laid s.toJson given s') :
    (∃ items, given = .array items) ∨
      ∃ members, given = .object members ∧
        (∀ name value, Entries.get? name members = some value →
          name ∈ ["enabled", "level", "format", "span_events", "file_line_info", "include_target"]) ∧
        Takes .bool (Entries.get? "enabled" members) s.enabled s'.enabled ∧
        Takes .string (Entries.get? "level" members) s.level s'.level ∧
        Takes (.choice LogFormat.named) (Entries.get? "format" members) s.format s'.format ∧
        Takes .bool (Entries.get? "span_events" members) s.spanEvents s'.spanEvents ∧
        Takes .bool (Entries.get? "file_line_info" members) s.places s'.places ∧
        Takes .bool (Entries.get? "include_target" members) s.targets s'.targets := by
  refine (Record.Laid.cases h rfl (by decide) ⟨rfl, rfl, rfl, rfl, rfl, rfl, trivial⟩ hs).imp_right ?_
  rintro ⟨members, hgiven, hknown, ⟨a, b, c, d, e, f, -⟩, rfl, ha, hb, hc, hd, he, hf, -⟩
  exact ⟨members, hgiven, hknown, (leaf_bool _).takes ha.2, (leaf_string _).takes hb.2, (leaf_format _).takes hc.2,
    (leaf_bool _).takes hd.2, (leaf_bool _).takes he.2, (leaf_bool _).takes hf.2⟩

/-- The settings of a log that a document gives, by their paths. -/
theorem LogSettings.gives {s s' : LogSettings} {given : Json} (hs : given.Sorted)
    (h : LogSettings.document.Laid s.toJson given s') :
    given.Gives .bool ["enabled"] s.enabled s'.enabled ∧
      given.Gives .string ["level"] s.level s'.level ∧
      given.Gives (.choice LogFormat.named) ["format"] s.format s'.format ∧
      given.Gives .bool ["span_events"] s.spanEvents s'.spanEvents ∧
      given.Gives .bool ["file_line_info"] s.places s'.places ∧
      given.Gives .bool ["include_target"] s.targets s'.targets := by
  rcases LogSettings.laid hs h with ⟨items, rfl⟩ | ⟨members, rfl, -, ha, hb, hc, hd, he, hf⟩
  · exact ⟨gives_array, gives_array, gives_array, gives_array, gives_array, gives_array⟩
  · exact ⟨ha.gives, hb.gives, hc.gives, hd.gives, he.gives, hf.gives⟩

theorem LogSettings.within {s s' : LogSettings} {given : Json} (hs : given.Sorted)
    (h : LogSettings.document.Laid s.toJson given s') :
    given.Within [["enabled"], ["level"], ["format", "json"], ["format", "pretty"], ["span_events"],
      ["file_line_info"], ["include_target"]] := by
  rcases LogSettings.laid hs h with
    ⟨items, rfl⟩ | ⟨members, rfl, hknown, henabled, hlevel, hformat, hspans, hplaces, htargets⟩
  · exact within_array (List.mem_cons_self ..)
  · refine within_object (List.mem_cons_self ..) fun name value hv => ?_
    have hname := hknown name value hv
    simp only [List.mem_cons, List.not_mem_nil, or_false] at hname
    rcases hname with rfl | rfl | rfl | rfl | rfl | rfl
    · exact ⟨_, henabled.within hv nofun, by decide⟩
    · exact ⟨_, hlevel.within hv nofun, by decide⟩
    · have hwithin : value.Within [["json"], ["pretty"]] := hformat.choice_within hv (List.mem_cons_self ..) (by decide)
      exact ⟨_, hwithin, by decide⟩
    · exact ⟨_, hspans.within hv nofun, by decide⟩
    · exact ⟨_, hplaces.within hv nofun, by decide⟩
    · exact ⟨_, htargets.within hv nofun, by decide⟩

private theorem LogSettings.forgets {s t s' t' : LogSettings} {given : Json} (hs : given.Sorted)
    (h : LogSettings.document.Laid s.toJson given s') (h' : LogSettings.document.Laid t.toJson given t') (name : String)
    (hbefore : given.arrayBefore [name] = true) : s' = t' := by
  rcases LogSettings.laid hs h with ⟨items, rfl⟩ | ⟨members, rfl, -⟩
  · exact h.array h'
  · rw [arrayBefore_member] at hbefore
    cases hbefore

end Log

namespace Setting

/-- A path leads to a setting, or to the name of a format that is given as an object. -/
def Leads (path : List String) : Prop :=
  (∃ k : Setting, path <+: k.path) ∨ ∃ f : LogFormat, path = logFormat.path ++ [f.name]

private theorem leads_of_prefix {path full : List String} (h : path <+: full)
    (hfull : full ∈ all.map Setting.path ++ LogFormat.all.map fun f => logFormat.path ++ [f.name]) : Leads path := by
  rcases List.mem_append.1 hfull with hm | hm
  · obtain ⟨k, -, rfl⟩ := List.mem_map.1 hm
    exact .inl ⟨k, h⟩
  · obtain ⟨f, -, rfl⟩ := List.mem_map.1 hm
    rcases List.prefix_concat_iff.1 h with he | hp
    · exact .inr ⟨f, he⟩
    · exact .inl ⟨logFormat, hp⟩

/-- How the value of a setting is read where a document gives it. -/
def shape : (k : Setting) → Shape Unit k.Content
  | bodySize | partsBodySize | partsFieldSize | partsFields => .size
  | logEnabled | logSpanEvents | logPlaces | logTargets => .bool
  | logLevel => .string
  | logFormat => .choice LogFormat.named

end Setting

namespace Settings

private theorem laid {s s' : Settings} {given : Json} (hs : given.Sorted) (h : s.withDocument given = .ok s') :
    (∃ items, given = .array items) ∨
      ∃ members, given = .object members ∧
        (∀ name value, Entries.get? name members = some value → name ∈ ["binder", "logging"]) ∧
        Limits.document.Laid s.limits.toJson (sectionOf "binder" members) s'.limits ∧
        LogSettings.document.Laid s.log.toJson (sectionOf "logging" members) s'.log := by
  have h : Settings.document.Laid s.toJson given s' := h
  refine (Record.Laid.cases h rfl (by decide) ⟨rfl, rfl, trivial⟩ hs).imp_right ?_
  rintro ⟨members, hgiven, hknown, ⟨a, b, -⟩, rfl, ha, hb, -⟩
  exact ⟨members, hgiven, hknown, .ofSection ha.2, .ofSection hb.2⟩

private theorem withDocument_gives {s s' : Settings} {given : Json} (hs : given.Sorted)
    (h : s.withDocument given = .ok s')
    (k : Setting) : given.Gives k.shape k.path (s.get k) (s'.get k) := by
  rcases laid hs h with ⟨items, rfl⟩ | ⟨members, rfl, -, hlimits, hlog⟩
  · cases k <;> exact gives_array
  · obtain ⟨hbody, hparts, hfield, hfields⟩ := Limits.gives (sectionOf_sorted hs _) hlimits
    obtain ⟨henabled, hlevel, hformat, hspans, hplaces, htargets⟩ := LogSettings.gives (sectionOf_sorted hs _) hlog
    cases k with
    | bodySize => exact hbody.inSection
    | partsBodySize => exact hparts.inSection
    | partsFieldSize => exact hfield.inSection
    | partsFields => exact hfields.inSection
    | logEnabled => exact henabled.inSection
    | logLevel => exact hlevel.inSection
    | logFormat => exact hformat.inSection
    | logSpanEvents => exact hspans.inSection
    | logPlaces => exact hplaces.inSection
    | logTargets => exact htargets.inSection

private theorem withDocument_leads {s s' : Settings} {given : Json} (hs : given.Sorted)
    (h : s.withDocument given = .ok s')
    {path : List String} (hp : (given.at? path).isSome) : Setting.Leads path := by
  have hwithin : given.Within
      (Setting.all.map Setting.path ++ LogFormat.all.map fun f => Setting.logFormat.path ++ [f.name]) := by
    rcases laid hs h with ⟨items, rfl⟩ | ⟨members, rfl, hknown, hlimits, hlog⟩
    · exact within_array (List.mem_cons_self ..)
    · refine within_object (List.mem_cons_self ..) fun name value hv => ?_
      have hname := hknown name value hv
      simp only [List.mem_cons, List.not_mem_nil, or_false] at hname
      rcases hname with rfl | rfl
      · have hwithin := Limits.within (sectionOf_sorted hs _) hlimits
        rw [sectionOf, hv] at hwithin
        exact ⟨_, hwithin, by decide⟩
      · have hwithin := LogSettings.within (sectionOf_sorted hs _) hlog
        rw [sectionOf, hv] at hwithin
        exact ⟨_, hwithin, by decide⟩
  obtain ⟨full, hfull, hprefix⟩ := hwithin path hp
  exact Setting.leads_of_prefix hprefix hfull

private theorem withDocument_forgets {s t s' t' : Settings} {given : Json} (hs : given.Sorted)
    (h : s.withDocument given = .ok s')
    (h' : t.withDocument given = .ok t') {k : Setting} (hbefore : given.arrayBefore k.path = true) :
    s'.get k = t'.get k := by
  rcases laid hs h with ⟨items, rfl⟩ | ⟨members, rfl, -, hlimits, hlog⟩
  · obtain rfl : s' = t' := Record.Laid.array h h'
    rfl
  · rcases laid hs h' with ⟨items, hitems⟩ | ⟨_, hsame, -, hlimits', hlog'⟩
    · cases hitems
    · cases hsame
      obtain ⟨hwhole, hparts⟩ := Limits.forgets (sectionOf_sorted hs _) hlimits hlimits'
      have hlogs := LogSettings.forgets (sectionOf_sorted hs _) hlog hlog'
      cases k with
      | bodySize =>
        have hsame : s'.limits = t'.limits := hwhole _ (arrayBefore_sectionOf .. ▸ hbefore)
        simp only [get, hsame]
        rfl
      | partsBodySize | partsFieldSize | partsFields =>
        have hsame : s'.limits.parts = t'.limits.parts := hparts _ (arrayBefore_sectionOf .. ▸ hbefore)
        simp only [get, hsame]
        rfl
      | logEnabled | logLevel | logFormat | logSpanEvents | logPlaces | logTargets =>
        have hsame : s'.log = t'.log := hlogs _ (arrayBefore_sectionOf .. ▸ hbefore)
        simp only [get, hsame]
        rfl

end Settings

namespace Loader

variable {l l' : Loader} {format : DocumentFormat} {text : String} {document : Json}

private theorem documentOf_sorted (hd : documentOf format text = .ok document) : document.Sorted := by
  cases format with
  | json => exact Json.read_sorted (mapError_eq_ok.1 hd)
  | toml =>
    unfold documentOf at hd
    dsimp only at hd
    split at hd
    · next found hfound =>
      cases hd
      exact Toml.read_sorted hfound
    · cases hd

private theorem withText_of_document (l : Loader) (hd : documentOf format text = .ok document) :
    l.withText format text =
      ((l.settings.withDocument document).mapError fun m => .badJson m.message).map l.withSettings := by
  unfold withText
  rw [hd]
  rfl

private theorem withText_eq_ok_iff (hd : documentOf format text = .ok document) :
    l.withText format text = .ok l' ↔ ∃ s, l.settings.withDocument document = .ok s ∧ l.withSettings s = l' := by
  rw [withText_of_document l hd, map_eq_ok]
  simp only [mapError_eq_ok]

private theorem withText_fails (hd : documentOf format text = .ok document)
    (h : ∀ l', l.withText format text ≠ .ok l') :
    ∃ message, l.withText format text = .error (.badJson message) := by
  cases hs : l.settings.withDocument document with
  | ok s => exact absurd ((withText_eq_ok_iff hd).2 ⟨s, hs, rfl⟩) (h _)
  | error m =>
    rw [withText_of_document l hd, hs]
    exact ⟨m.message, rfl⟩

/-- A document is laid over the settings one by one. What a JSON text gives at a path is what stands there last. A
document with a name that is on the way to no setting is refused, except for `json` and `pretty` below the format of the
log: an object with one of them for its only name stands for the format of that name. Otherwise each setting whose path
is in the document is read from there, and each other one stays as it was, if no array stands on the way to it; below an
array nothing is left of what it was. Of two documents, one after the other, the second one counts where it has a path,
and else the first. -/
theorem withText_overlays_settings (hd : documentOf format text = .ok document) :
    (format = .json → ∀ path,
      match (Document.ofBytes (Utf8.encode text)).root.at? path with
      | some last => ∃ value, document.at? path = some value ∧ last.value (nestingLimit - path.length) = .ok value
      | none => document.at? path = none) ∧
    (∀ path, (document.at? path).isSome → ¬ Setting.Leads path →
      ∃ message, l.withText format text = .error (.badJson message)) ∧
    ∀ l', l.withText format text = .ok l' →
      l' = l.withSettings l'.settings ∧
      (∀ k, document.Gives k.shape k.path (l.settings.get k) (l'.settings.get k)) ∧
      (∀ k, document.arrayBefore k.path = true →
        ∀ other other', withText other format text = .ok other' → other'.settings.get k = l'.settings.get k) ∧
      ∀ format₂ text₂ document₂ l₂, documentOf format₂ text₂ = .ok document₂ → l'.withText format₂ text₂ = .ok l₂ →
        ∀ k, document.arrayBefore k.path = false → document₂.arrayBefore k.path = false →
          Takes k.shape ((document₂.at? k.path).or (document.at? k.path)) (l.settings.get k) (l₂.settings.get k) := by
  have hsorted := documentOf_sorted hd
  refine ⟨?_, fun path hp hleads => ?_, fun l' h => ?_⟩
  · rintro rfl path
    obtain ⟨hroot, -⟩ := Document.readWith_eq_ok.1 (mapError_eq_ok.1 hd)
    exact Outline.at?_value hroot path
  · refine withText_fails hd fun l' h => hleads ?_
    obtain ⟨s, hs, rfl⟩ := (withText_eq_ok_iff hd).1 h
    exact Settings.withDocument_leads hsorted hs hp
  · obtain ⟨s, hs, rfl⟩ := (withText_eq_ok_iff hd).1 h
    have hgives := Settings.withDocument_gives hsorted hs
    refine ⟨rfl, hgives, fun k hbefore other other' hother => ?_, ?_⟩
    · obtain ⟨t, ht, rfl⟩ := (withText_eq_ok_iff hd).1 hother
      exact Settings.withDocument_forgets hsorted ht hs hbefore
    · intro format₂ text₂ document₂ l₂ hd₂ h₂ k hbefore hbefore₂
      obtain ⟨s₂, hs₂, rfl⟩ := (withText_eq_ok_iff hd₂).1 h₂
      exact (hgives k hbefore).later (Settings.withDocument_gives (documentOf_sorted hd₂) hs₂ k hbefore₂)

/-- Of a repeated name the last value counts, and a second document keeps what it does not name. -/
theorem withText_overlays_settings_of_repeated_name :
    let l := Loader.new.withSettings .development
    let text := "\x7b\"binder\":\x7b\"max_body_size\":5,\"max_body_size\":7\x7d\x7d"
    ∃ l' l₂, l.withText .json text = .ok l' ∧ l'.withText .toml "logging.level = 'warn'" = .ok l₂ ∧
      Json.as .size (.ofInt 7) = .ok (l'.settings.get .bodySize) ∧
      Json.as .size (.ofInt 7) = .ok (l₂.settings.get .bodySize) ∧
      Json.as .string (.string "warn") = .ok (l₂.settings.get .logLevel) ∧
      l₂.settings.get .partsFields = Settings.development.get .partsFields := by
  intro l text
  let s' : Settings := { Settings.development with limits.bodySize := 7 }
  let s₂ : Settings := { s' with log.level := "warn" }
  let first : Json := .object [("binder", .object [("max_body_size", .ofInt 7)])]
  let second : Json := .object [("logging", .object [("level", .string "warn")])]
  have hd : documentOf .json text = .ok first := by cbv
  have hd₂ : documentOf .toml "logging.level = 'warn'" = .ok second := by cbv
  have hs : Settings.development.withDocument first = .ok s' := by cbv
  have hs₂ : s'.withDocument second = .ok s₂ := by cbv
  have h : l.withText .json text = .ok (l.withSettings s') := (withText_eq_ok_iff hd).2 ⟨s', hs, rfl⟩
  have h₂ : (l.withSettings s').withText .toml "logging.level = 'warn'" = .ok (l.withSettings s₂) :=
    (withText_eq_ok_iff hd₂).2 ⟨s₂, hs₂, rfl⟩
  obtain ⟨-, hgives, -, hlater⟩ := (withText_overlays_settings hd).2.2 _ h
  have hboth (k : Setting) := hlater _ _ _ _ hd₂ h₂ k
  exact ⟨_, _, h, h₂, hgives .bodySize rfl, hboth .bodySize rfl rfl, hboth .logLevel rfl rfl,
    hboth .partsFields rfl rfl⟩

/-- An array without items names no setting and is taken all the same. It stands for the standard settings, whatever
was set before. -/
theorem withText_drops_settings_for_array :
    documentOf .json "[]" = .ok (.array []) ∧ (∀ k : Setting, (Json.array []).at? k.path = none) ∧
      (Loader.new.withSettings .development).withText .json "[]" = .ok Loader.new ∧
      Settings.standard.get .bodySize ≠ Settings.development.get .bodySize := by
  have hd : documentOf .json "[]" = .ok (.array []) := by cbv
  have hs : Settings.development.withDocument (.array []) = .ok .standard := by cbv
  refine ⟨hd, fun k => by cases k <;> rfl, (withText_eq_ok_iff hd).2 ⟨_, hs, rfl⟩, ?_⟩
  show Limits.standard.bodySize ≠ Limits.development.bodySize
  decide

end Loader
end RequestBinding
