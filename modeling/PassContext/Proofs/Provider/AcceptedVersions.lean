/-
# Which versions are accepted

The version that an output reports goes on as long as there are digits and dots.  The version that
is read from it has three characters, and it is accepted if it begins with one of the list.  Both
go by characters and not by the parts of a version.

So a reported version is accepted if it begins with a version of the list that has at most three
characters, and only then (`acceptsText_iff`): it may be that version, it may go on with a dot,
and it may also go on with another digit.  The last of these is no release of the listed version:
where `5.1` is on the list, `5.10` is accepted too (`accepts_unlisted`).
-/
import PassContext.Proofs.Provider.Stages
import PassContext.Proofs.Provider.VersionCache

namespace PassContext

/-! ## 1. Reported versions -/

/-- A character of a version number. -/
def isVersionChar (c : Char) : Bool := isAsciiDigit c || c == '.'

/-- The version that an output reports: the longest run of digits and dots from its first digit
on. -/
def reportedVersion (output : String) : String :=
  .ofList ((output.toList.dropWhile fun c => !isAsciiDigit c).takeWhile isVersionChar)

/-- A dotted version number: numbers with a dot in front of each but the first. -/
def IsVersionNumber (s : String) : Prop :=
  ∃ number numbers, s.toList = number ++ numbers.flatMap ('.' :: ·) ∧
    ∀ digits ∈ number :: numbers, digits ≠ [] ∧ ∀ c ∈ digits, isAsciiDigit c = true

/-- A text up to some place is in the longest run that has all its characters. -/
theorem prefix_takeWhile {p : Char → Bool} {cs text : List Char} (h : cs <+: text)
    (hp : ∀ c ∈ cs, p c = true) : cs <+: text.takeWhile p := by
  obtain ⟨rest, rfl⟩ := h
  rw [List.takeWhile_append_of_pos hp]
  exact List.prefix_append cs _

theorem IsVersionNumber.isVersionChar_of_mem {s : String} (h : IsVersionNumber s) :
    ∀ c ∈ s.toList, isVersionChar c = true := by
  obtain ⟨number, numbers, hs, hdigits⟩ := h
  have hdigit : ∀ digits ∈ number :: numbers, ∀ c ∈ digits, isVersionChar c = true :=
    fun digits hmem c hc => by rw [isVersionChar, (hdigits digits hmem).2 c hc, Bool.true_or]
  intro c hc
  rw [hs, List.mem_append, List.mem_flatMap] at hc
  rcases hc with hfirst | ⟨digits, hmem, hc⟩
  · exact hdigit number (List.mem_cons_self ..) c hfirst
  · rcases List.mem_cons.mp hc with rfl | hc
    · decide
    · exact hdigit digits (List.mem_cons_of_mem _ hmem) c hc

theorem isVersionChar_of_mem_reportedVersion {output : String} {c : Char}
    (h : c ∈ (reportedVersion output).toList) : isVersionChar c = true := by
  rw [reportedVersion, String.toList_ofList] at h
  exact List.all_eq_true.mp List.all_takeWhile c h

/-- The reported version begins where the one that is read begins. -/
theorem reportedVersion_begins_read (output : String) :
    (reportedVersion output).toList <+: output.toList.dropWhile fun c => !isAsciiDigit c := by
  rw [reportedVersion, String.toList_ofList]
  exact List.takeWhile_prefix _

theorem versionChars?_eq_some_iff {output chars : List Char} :
    versionChars? output = some chars ↔
      chars = (output.dropWhile fun c => !isAsciiDigit c).take 3 ∧ chars.length = 3 := by
  simp only [versionChars?, Option.ite_none_right_eq_some, Option.some.injEq]
  constructor
  · rintro ⟨hlength, rfl⟩
    exact ⟨rfl, hlength⟩
  · rintro ⟨rfl, hlength⟩
    exact ⟨hlength, rfl⟩

namespace Settings

/-! ## 2. The list -/

/-- All versions on the list are version numbers. -/
def HasVersionNumbers (s : Settings) : Prop := ∀ entry ∈ s.supportedVersions, IsVersionNumber entry

/-- A version is on the list, or it goes on with a dot behind one of the list. -/
def Lists (s : Settings) (version : String) : Prop :=
  ∃ entry ∈ s.supportedVersions, version = entry ∨ ∃ rest, version = entry ++ "." ++ rest

/-- A version goes on with another digit behind one of the list. -/
def Overruns (s : Settings) (version : String) : Prop :=
  ∃ entry ∈ s.supportedVersions, ∃ digit rest, isAsciiDigit digit = true ∧
    version = entry ++ String.singleton digit ++ rest

/-- What an output says if a version is accepted from it. -/
structure AcceptsText (s : Settings) (output version : String) : Prop where
  read : versionIn? output = some version
  begins : ∃ entry ∈ s.supportedVersions, entry.toList.length ≤ 3 ∧
    entry.toList <+: (reportedVersion output).toList
  reported : s.Lists (reportedVersion output) ∨ s.Overruns (reportedVersion output)

variable {s : Settings} {output version : String}

theorem supports_iff :
    s.supports version = true ↔ ∃ entry ∈ s.supportedVersions, entry.toList <+: version.toList := by
  simp [supports]

/-- Behind a version of the list, the reported one ends or goes on with a dot or a digit. -/
theorem lists_or_overruns {entry : String} (hentry : entry ∈ s.supportedVersions)
    (h : entry.toList <+: (reportedVersion output).toList) :
    s.Lists (reportedVersion output) ∨ s.Overruns (reportedVersion output) := by
  obtain ⟨rest, hrest⟩ := h
  cases rest with
  | nil =>
    refine .inl ⟨entry, hentry, .inl (String.toList_inj.mp ?_)⟩
    rw [← hrest, List.append_nil]
  | cons c rest =>
    have hversion : reportedVersion output = entry ++ String.singleton c ++ .ofList rest := by
      rw [← String.toList_inj, ← hrest]
      simp
    have hc : isVersionChar c = true :=
      isVersionChar_of_mem_reportedVersion (hrest ▸ List.mem_append_right _ (List.mem_cons_self ..))
    rcases Bool.or_eq_true_iff.mp hc with hdigit | hdot
    · exact .inr ⟨entry, hentry, c, .ofList rest, hdigit, hversion⟩
    · obtain rfl := beq_iff_eq.mp hdot
      exact .inl ⟨entry, hentry, .inr ⟨.ofList rest, hversion⟩⟩

/-- **A version is accepted for the first characters of an output**, by those of the list. -/
theorem acceptsText_iff (h : s.HasVersionNumbers) :
    s.AcceptsText output version ↔
      versionIn? output = some version ∧ s.supports version = true := by
  constructor
  · rintro ⟨hread, ⟨entry, hentry, hlength, hbegins⟩, -⟩
    refine ⟨hread, supports_iff.mpr ⟨entry, hentry, ?_⟩⟩
    obtain ⟨chars, hchars, rfl⟩ := Option.map_eq_some_iff.mp hread
    rw [String.toList_ofList, (versionChars?_eq_some_iff.mp hchars).1]
    exact List.prefix_take_iff.mpr ⟨hbegins.trans (reportedVersion_begins_read output), hlength⟩
  · rintro ⟨hread, hsupports⟩
    obtain ⟨entry, hentry, hprefix⟩ := supports_iff.mp hsupports
    obtain ⟨chars, hchars, rfl⟩ := Option.map_eq_some_iff.mp (id hread)
    rw [String.toList_ofList, (versionChars?_eq_some_iff.mp hchars).1] at hprefix
    obtain ⟨htext, hlength⟩ := List.prefix_take_iff.mp hprefix
    have hbegins : entry.toList <+: (reportedVersion output).toList := by
      rw [reportedVersion, String.toList_ofList]
      exact prefix_takeWhile htext (h entry hentry).isVersionChar_of_mem
    exact ⟨hread, ⟨entry, hentry, hlength, hbegins⟩, lists_or_overruns hentry hbegins⟩

theorem versionOfAnswer_eq_ok_iff {toolchain : Option String} {answer : Output}
    (h : answer.success = true) :
    s.versionOfAnswer toolchain (.ok answer) = .ok version ↔
      versionIn? answer.stdout = some version ∧ s.supports version = true := by
  constructor
  · intro hok
    obtain ⟨output, hanswer, -, hread, hsupports⟩ := versionOfAnswer_eq_ok hok
    obtain rfl := Except.ok.inj hanswer
    exact ⟨hread, hsupports⟩
  · rintro ⟨hread, hsupports⟩
    rw [Provider.versionOfAnswer_of_success h, hread]
    exact if_pos hsupports

end Settings

namespace Provider

/-! ## 3. What a provider accepts -/

variable {τ : Type} (p : Provider) (tools : Tools τ) (state : τ)

/-- After any operations, a version is given for what an output says. -/
structure AcceptsByText (ops : List Session.Operation) (toolchain : Option String) : Prop where
  /-- It was read from an output of a successful query for a toolchain of that name. -/
  given : ∀ version,
    ((p.after tools state ops).apply tools.recorded (.version toolchain)).1 =
      .ok (.text version) →
    ∃ asked output, asked.getD "" = toolchain.getD "" ∧
      .ran (p.settings.versionQuery asked) (.ok output) ∈
        (p.after tools state (ops ++ [.version toolchain])).world.tools.2 ∧
      output.success = true ∧ p.settings.AcceptsText output.stdout version
  /-- If none was kept, the output of the query decides. -/
  decided : (p.after tools state ops).version? (toolchain.getD "") = none →
    ∀ output, (tools.run (p.settings.versionQuery toolchain)
        (p.after tools state ops).world.tools.1).1 = .ok output → output.success = true →
    ∀ version, ((p.after tools state ops).apply tools.recorded (.version toolchain)).1 =
        .ok (.text version) ↔ p.settings.AcceptsText output.stdout version

variable {p tools state} {ops : List Session.Operation} {toolchain : Option String}

/-- A version that was given is kept. -/
theorem version?_of_apply {version : String}
    (h : ((p.after tools state ops).apply tools.recorded (.version toolchain)).1 =
      .ok (.text version)) :
    (p.after tools state (ops ++ [.version toolchain])).version? (toolchain.getD "") =
      some version := by
  rw [after_append]
  show ((p.after tools state ops).apply tools.recorded (.version toolchain)).2.version? _ = _
  cases hkept : (p.after tools state ops).version? (toolchain.getD "") with
  | some kept =>
    rw [apply_version_of_some hkept] at h ⊢
    rw [hkept, Session.Result.text.inj (Except.ok.inj h)]
  | none =>
    obtain ⟨s', happly, -, hvalue, -⟩ := apply_version_of_none tools.recorded hkept
    rw [happly] at h ⊢
    rw [hvalue]
    cases hqueried : (p.after tools state ops).provider.queriedVersion tools.recorded
        (p.after tools state ops).world.tools toolchain with
    | error e => exact absurd h (by simp [hqueried, Except.map])
    | ok queried =>
      rw [hqueried] at h
      rw [← Session.Result.text.inj (Except.ok.inj h)]
      rfl

theorem apply_version_eq_ok_iff {version : String}
    (hnone : (p.after tools state ops).version? (toolchain.getD "") = none) :
    ((p.after tools state ops).apply tools.recorded (.version toolchain)).1 =
        .ok (.text version) ↔
      p.settings.versionOfAnswer toolchain (tools.run (p.settings.versionQuery toolchain)
        (p.after tools state ops).world.tools.1).1 = .ok version := by
  obtain ⟨s', happly, -⟩ := apply_version_of_none tools.recorded hnone
  rw [happly, provider_after]
  show Except.map _ (p.settings.versionOfAnswer toolchain (tools.run _ _).1) = _ ↔ _
  cases p.settings.versionOfAnswer toolchain (tools.run (p.settings.versionQuery toolchain)
    (p.after tools state ops).world.tools.1).1 <;> simp [Except.map]

/-- **Versions are accepted by their characters**: a version that is given was reported as one that
begins with a version of the list. -/
theorem acceptsByText (h : p.settings.HasVersionNumbers) (tools : Tools τ) (state : τ)
    (ops : List Session.Operation) (toolchain : Option String) :
    p.AcceptsByText tools state ops toolchain where
  given version hgiven := by
    have hkept := keptVersion (version?_of_apply hgiven)
    obtain ⟨asked, output, hname, hran, hsuccess, hread⟩ := hkept.read
    exact ⟨asked, output, hname, hran, hsuccess,
      (Settings.acceptsText_iff h).mpr ⟨hread, hkept.supported⟩⟩
  decided hnone output hanswer hsuccess version := by
    rw [apply_version_eq_ok_iff hnone, hanswer, Settings.versionOfAnswer_eq_ok_iff hsuccess,
      Settings.acceptsText_iff h]

/-- A toolchain of the tenth minor version. -/
def laterMinor : Tools Unit where
  run _ state := (.ok (.succeeded "Swift version 5.10 (swift-5.10-RELEASE)\n"), state)
  load _ _ _ state := (.ok [], state)

/-- Two numbers of one digit. -/
theorem isVersionNumber_of_digits {d e : Char} (hd : isAsciiDigit d = true)
    (he : isAsciiDigit e = true) : IsVersionNumber (.ofList [d, '.', e]) :=
  ⟨[d], [[e]], String.toList_ofList, by simp [hd, he]⟩

theorem hasVersionNumbers_default : Settings.default.HasVersionNumbers := by
  intro entry hentry
  simp only [Settings.default, List.mem_cons, List.not_mem_nil, or_false] at hentry
  rcases hentry with rfl | rfl | rfl <;> exact isVersionNumber_of_digits rfl rfl

/-- `5.10` is accepted for `5.1`. -/
theorem acceptsByText_laterMinor :
    Settings.default.HasVersionNumbers ∧
      let p : Provider := ⟨.default, ⟨"library.json"⟩⟩
      p.AcceptsByText laterMinor () [] none ∧
      ((p.after laterMinor () []).apply laterMinor.recorded (.version none)).1 =
        .ok (.text "5.1") ∧
      p.settings.AcceptsText "Swift version 5.10 (swift-5.10-RELEASE)\n" "5.1" := by
  have haccepts := acceptsByText (p := ⟨.default, ⟨"library.json"⟩⟩) hasVersionNumbers_default
    laterMinor () [] none
  refine ⟨hasVersionNumbers_default, haccepts, rfl, ?_⟩
  exact (haccepts.decided rfl (.succeeded "Swift version 5.10 (swift-5.10-RELEASE)\n") rfl rfl
    "5.1").mp rfl

/-- A version may be accepted though it is not on the list, and no release of one that is. -/
theorem accepts_unlisted :
    ¬∀ (p : Provider) (tools : Tools Unit) (toolchain : Option String) (output : Output)
      (version : String), p.settings.HasVersionNumbers →
      (tools.run (p.settings.versionQuery toolchain) ()).1 = .ok output → output.success = true →
      ((Session.start p ()).apply tools (.version toolchain)).1 = .ok (.text version) →
      p.settings.Lists (reportedVersion output.stdout) := by
  intro hlisted
  obtain ⟨entry, hentry, hversion⟩ := hlisted ⟨.default, ⟨"library.json"⟩⟩ laterMinor none
    (.succeeded "Swift version 5.10 (swift-5.10-RELEASE)\n") "5.1" hasVersionNumbers_default rfl rfl
    rfl
  have hreported :
      reportedVersion "Swift version 5.10 (swift-5.10-RELEASE)\n" = "5.10" := by cbv
  simp only [Output.succeeded, hreported, ← String.toList_inj, String.toList_append] at hversion
  simp only [Settings.default, List.mem_cons, List.not_mem_nil, or_false] at hentry
  rcases hentry with rfl | rfl | rfl <;> simp at hversion

end Provider

end PassContext
