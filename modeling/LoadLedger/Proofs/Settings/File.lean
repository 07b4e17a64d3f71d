import LoadLedger.Proofs.Json.Limits
import LoadLedger.Proofs.Json.Writable
import LoadLedger.Proofs.Settings.Escapes
import LoadLedger.Settings.File

/-!
# What escapes from loading settings

A file of settings that is missing or holds no JSON text is reported as such. Octets that do not
decode, a text that passes a limit, and a path that leads to something else than a file are not
reported, and neither is what escapes from reading the settings (`Settings.FileEscape`).

The stages are `readText`, `parse` and `ofRoot`. Since what was parsed can be written
(`Json.writable_of_read`), the limits of writing do not come into it.
-/

namespace LoadLedger

/-- There is one sort of fault that tells of a missing file. -/
theorem Fault.eq_missingFile_of_family {cause : Fault} (h : cause.family = .missingFile) :
    ∃ path, cause = .missingFile path := by
  cases cause with
  | missingFile path => exact ⟨path, rfl⟩
  | _ => cases h

/-! ## Following paths -/

namespace FileTree

variable {t : FileTree} {path : String} {cause : Fault}

/-- A path is followed part by part, and what goes wrong on the way is a fault of the file
system. -/
theorem isFileFault_of_follow {folder : Path} {parts : List (List Char)}
    (h : t.follow path folder parts = .error cause) : cause.isFileFault = true := by
  induction parts generalizing folder with
  | nil => cases h
  -- a part may be a dot, two dots or a name, and only a name can lead nowhere
  | cons part parts ih =>
    rw [follow] at h
    split at h
    · exact ih h
    split at h
    · exact ih h
    dsimp only at h
    split at h
    · cases h
      rfl
    split at h
    · exact ih h
    · split at h
      · cases h
      · cases h
        rfl
    · split at h
      · cases h
      · cases h
        rfl

/-- A file is not read for a reason of the operating system's, or since its path is no path. -/
theorem fault_of_read (h : t.read path = .error cause) :
    cause.isFileFault = true ∨ cause = .nullInPath := by
  rw [read] at h
  split at h
  · rename_i hresolve
    cases h
    -- the path is none, it is empty, or one of its parts leads nowhere
    rw [resolve] at hresolve
    split at hresolve
    · cases hresolve
      exact .inr rfl
    split at hresolve
    · cases hresolve
      exact .inl rfl
    split at hresolve
    · cases hresolve
      exact .inl rfl
    · exact .inl (isFileFault_of_follow hresolve)
  · cases h
  · cases h
    exact .inl rfl
  · cases h
    exact .inl rfl

/-- Such a reason is never told as one of the settings. -/
theorem family_ne_of_read (h : t.read path = .error cause) : cause.family ≠ .settings := by
  intro hfamily
  obtain hfile | rfl := fault_of_read h
  · rw [Fault.isFileFault, hfamily] at hfile
    cases hfile
  · cases hfamily

end FileTree

variable [Depths]

namespace Settings

variable {cause : Fault}

/-! ## Files of settings -/

/-- **Where and how faults escape from loading settings.** The last of them is `SettingsEscape`, on
the object of the file. -/
inductive FileEscape (tree : FileTree) (path : String) : Fault → Prop
  /-- The path leads to something, but not to a file. -/
  | path {cause : Fault} (h : tree.read path = .error cause)
    (hfamily : cause.family ≠ .missingFile) : FileEscape tree path cause
  /-- The octets do not decode. -/
  | octets {octets : List UInt8} {refusal : Text.Utf8.Refusal} (h : tree.read path = .ok octets)
    (hrefusal : Text.Utf8.decode octets = .error refusal) :
    FileEscape tree path (.undecodable refusal)
  /-- A numeral is too long, or values are nested too deep. -/
  | limit {octets : List UInt8} {text : List Char} {cause : Fault}
    (h : tree.read path = .ok octets) (htext : Text.Utf8.decode octets = .ok text)
    (hread : Json.read .ofFiles (Text.unifyLineEnds text) = .error cause)
    (hlimit : Json.LimitFault .ofFiles cause) : FileEscape tree path cause
  /-- One of the settings lets a fault escape. -/
  | settings {octets : List UInt8} {text : List Char} {v : Value}
    {entries : List (String × Value)} {cause : Fault} (h : tree.read path = .ok octets)
    (htext : Text.Utf8.decode octets = .ok text)
    (hread : Json.read .ofFiles (Text.unifyLineEnds text) = .ok v)
    (hentries : v.fields? = some entries) (hsettings : SettingsEscape entries cause) :
    FileEscape tree path cause

omit [Depths] in
/-- A missing file is reported. Any other reason for not reading it escapes, and so do octets that
do not decode. -/
theorem escapes_readText_iff {tree : FileTree} {path : String} :
    Escapes (readText tree path) cause ↔
      (tree.read path = .error cause ∧ cause.family ≠ .missingFile) ∨
      ∃ octets refusal, tree.read path = .ok octets ∧
        Text.Utf8.decode octets = .error refusal ∧ cause = .undecodable refusal := by
  rw [readText]
  split
  · rename_i missing hread
    refine iff_of_false (not_escapesFrom_of_family rfl) ?_
    rw [hread]
    rintro (⟨⟨⟩, hfamily⟩ | ⟨_, _, ⟨⟩, -⟩)
    exact hfamily rfl
  · rename_i c hmissing hread
    -- a fault of the file system is not of the settings family
    have hsettings := FileTree.family_ne_of_read hread
    have hfamily : c.family ≠ .missingFile := by
      intro h
      obtain ⟨missing, rfl⟩ := Fault.eq_missingFile_of_family h
      exact hmissing missing rfl
    rw [hread]
    refine ⟨?_, ?_⟩
    · rintro ⟨⟨⟩, -⟩
      exact .inl ⟨rfl, hfamily⟩
    · rintro (⟨⟨⟩, -⟩ | ⟨_, _, ⟨⟩, -⟩)
      exact ⟨rfl, hsettings⟩
  · rename_i octets hread
    rw [hread]
    cases hdecode : Text.Utf8.decode octets with
    | ok text =>
      refine iff_of_false not_escapesFrom_ok ?_
      rintro (⟨⟨⟩, -⟩ | ⟨_, _, ⟨⟩, hrefusal, -⟩)
      cases hdecode.symm.trans hrefusal
    | error refusal =>
      refine ⟨?_, ?_⟩
      · rintro ⟨⟨⟩, -⟩
        exact .inr ⟨octets, refusal, rfl, hdecode, rfl⟩
      · rintro (⟨⟨⟩, -⟩ | ⟨_, _, ⟨⟩, hrefusal, rfl⟩)
        cases hdecode.symm.trans hrefusal
        exact ⟨rfl, Fault.Family.noConfusion⟩

omit [Depths] in
/-- A text is read from the octets of a file, and its line ends are unified. -/
theorem readText_eq_ok {tree : FileTree} {path : String} {text : List Char} :
    readText tree path = .ok text ↔ ∃ octets whole, tree.read path = .ok octets ∧
      Text.Utf8.decode octets = .ok whole ∧ text = Text.unifyLineEnds whole := by
  rw [readText]
  split
  · rename_i hread
    rw [hread]
    exact iff_of_false (by rintro ⟨⟩) (by rintro ⟨_, _, ⟨⟩, -⟩)
  · rename_i hread
    rw [hread]
    exact iff_of_false (by rintro ⟨⟩) (by rintro ⟨_, _, ⟨⟩, -⟩)
  · rename_i octets hread
    rw [hread]
    -- a file that can be read is decoded as a whole
    cases hdecode : Text.Utf8.decode octets with
    | error refusal =>
      refine iff_of_false (by rintro ⟨⟩) ?_
      rintro ⟨_, _, ⟨⟩, hwhole, -⟩
      cases hdecode.symm.trans hwhole
    | ok whole =>
      refine ⟨?_, ?_⟩
      · rintro ⟨⟩
        exact ⟨octets, whole, rfl, hdecode, rfl⟩
      · rintro ⟨_, _, ⟨⟩, hwhole, rfl⟩
        cases hdecode.symm.trans hwhole
        rfl

/-- A text is parsed by `Json.read`, with the limits of files. -/
theorem parse_eq_ok {text : List Char} {v : Value} :
    parse text = .ok v ↔ Json.read .ofFiles text = .ok v := by
  rw [parse]
  split
  · rename_i hread
    rw [hread]
  · rename_i hread
    rw [hread]
    refine iff_of_false ?_ (by rintro ⟨⟩)
    split
    · rintro ⟨⟩
    · rintro ⟨⟩

/-- A text that is no JSON is reported. One that passes a limit is not. -/
theorem escapes_parse_iff {text : List Char} :
    Escapes (parse text) cause ↔
      Json.read .ofFiles text = .error cause ∧ Json.LimitFault .ofFiles cause := by
  rw [parse]
  cases hread : Json.read Json.Limits.ofFiles text with
  | ok v => exact iff_of_false not_escapesFrom_ok (by rintro ⟨⟨⟩, -⟩)
  | error c =>
    obtain hjson | hlimit := Json.fault_of_read hread
    · dsimp only
      rw [hjson]
      refine iff_of_false (not_escapesFrom_of_family rfl) ?_
      rintro ⟨⟨⟩, hlimit⟩
      cases hlimit <;> cases hjson
    · -- a limit is neither the text's fault nor one of the settings
      have hfamilies : c.family ≠ .json ∧ c.family ≠ .settings := by
        cases hlimit <;> exact ⟨Fault.Family.noConfusion, Fault.Family.noConfusion⟩
      dsimp only
      split
      · rename_i hjson
        exact absurd hjson hfamilies.1
      · refine ⟨?_, ?_⟩
        · rintro ⟨⟨⟩, -⟩
          exact ⟨rfl, hlimit⟩
        · rintro ⟨⟨⟩, -⟩
          exact ⟨rfl, hfamilies.2⟩

/-- A root that is no object is reported, and otherwise the sections decide. -/
theorem escapes_ofRoot_iff {v : Value} (hv : v.Writable) :
    Escapes (ofRoot v) cause ↔
      ∃ entries, v.fields? = some entries ∧ SettingsEscape entries cause := by
  rw [ofRoot]
  cases hfields : v.fields? with
  | some entries =>
    rw [Option.isSome_some, if_pos rfl]
    refine (escapes_ofValue_iff hv hfields).trans ?_
    simp only [Option.some.injEq, exists_eq_left']
  | none =>
    refine iff_of_false (not_escapesFrom_of_family rfl) ?_
    rintro ⟨_, ⟨⟩, -⟩

/-- **Loading settings ends with settings, with a fault of the settings family, or in one of the
listed escapes.** -/
theorem escapes_load_iff {tree : FileTree} {path : String} :
    Escapes (load tree path) cause ↔ FileEscape tree path cause := by
  refine ⟨?_, ?_⟩
  · intro h
    obtain h | ⟨text, htext, h⟩ := escapesFrom_bind_iff.mp h
    · obtain ⟨hread, hfamily⟩ | ⟨_, _, hread, hrefusal, rfl⟩ := escapes_readText_iff.mp h
      · exact .path hread hfamily
      · exact .octets hread hrefusal
    obtain ⟨octets, whole, hoctets, hwhole, rfl⟩ := readText_eq_ok.mp htext
    obtain h | ⟨v, hv, h⟩ := escapesFrom_bind_iff.mp h
    · obtain ⟨hread, hlimit⟩ := escapes_parse_iff.mp h
      exact .limit hoctets hwhole hread hlimit
    have hread := parse_eq_ok.mp hv
    -- what was read from a file can be written, so that the stages after it are decided
    have hwritable := Json.writable_of_read hread
    obtain ⟨entries, hentries, hsettings⟩ := (escapes_ofRoot_iff hwritable).mp h
    exact .settings hoctets hwhole hread hentries hsettings
  · intro h
    refine escapesFrom_bind_iff.mpr ?_
    cases h with
    | path h hfamily => exact .inl (escapes_readText_iff.mpr (.inl ⟨h, hfamily⟩))
    | octets h hrefusal =>
      exact .inl (escapes_readText_iff.mpr (.inr ⟨_, _, h, hrefusal, rfl⟩))
    | limit h hwhole hread hlimit =>
      refine .inr ⟨_, readText_eq_ok.mpr ⟨_, _, h, hwhole, rfl⟩, ?_⟩
      exact escapesFrom_bind_iff.mpr (.inl (escapes_parse_iff.mpr ⟨hread, hlimit⟩))
    | settings h hwhole hread hentries hsettings =>
      refine .inr ⟨_, readText_eq_ok.mpr ⟨_, _, h, hwhole, rfl⟩, ?_⟩
      refine escapesFrom_bind_iff.mpr (.inr ⟨_, parse_eq_ok.mpr hread, ?_⟩)
      have hwritable := Json.writable_of_read hread
      exact (escapes_ofRoot_iff hwritable).mpr ⟨_, hentries, hsettings⟩

end Settings

end LoadLedger
