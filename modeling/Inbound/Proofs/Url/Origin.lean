import Inbound.Url.Parser

/-!
# Where references lead

A URL that is read relative to another one leads to the same place, unless what is read says itself
where it leads. It may do so with a scheme, with two slashes in front of a host, or among files with
a disk drive. It then leads to the place that it names, whatever URL it is relative to.

## Main results

* `join_of_local`: a reference that names no place keeps scheme, user, host and port;
* `join_of_departs`: for any other reference it does not matter what user, host and port the other
  URL has;
* `departs_of_slash`: an absolute path is such a reference exactly if it begins with two slashes.
-/

namespace Inbound.Url

/-- A URL leads to the same place as another one: scheme, user, host and port are the same. -/
def SameOrigin (url base : Url) : Prop :=
  url.scheme = base.scheme ∧ url.authority = base.authority

/-- The URL on another host. -/
def moveTo (url : Url) (authority : Option Authority) : Url :=
  { url with authority }

/-! ### What references say -/

/-- Whether characters begin with two slashes, be they of either kind. -/
def hasTwoSlashes : List Char → Bool
  | c :: d :: _ => isSlash c && isSlash d
  | _ => false

/-- Whether a reference among files names a host or a disk drive, or leads to the drive on which
`base` is. -/
def departsAsFile (base : Url) : List Char → Bool
  | [] => false
  | c :: rest =>
    if isSlash c then
      hasTwoSlashes (c :: rest) || startsWithDrive rest
        || (base.segments.head?.map isNormalDrive).getD false
    else startsWithDrive (c :: rest)

/-- Whether a text that is read relative to `base` says itself where it leads. -/
def departs (base : Url) (text : String) : Bool :=
  let cs := clean text
  match readScheme? cs with
  | some (scheme, rest) =>
    match SchemeKind.ofScheme scheme with
    | .file => base.scheme != scheme || base.departsAsFile rest
    | .special => base.scheme != scheme || hasTwoSlashes (unbroken rest)
    | .other => true
  | none =>
    if base.kind == .file then base.departsAsFile cs else hasTwoSlashes (unbroken cs)

/-! ### Parts -/

theorem sameOrigin_withTail (url : Url) (cs : List Char) : (withTail url cs).SameOrigin url := by
  unfold withTail
  split <;> exact ⟨rfl, rfl⟩

theorem scheme_readAfterSlashes {scheme : String} {cs : List Char} {url : Url}
    (h : readAfterSlashes? scheme cs = some url) : url.scheme = scheme := by
  unfold readAfterSlashes? at h
  obtain ⟨⟨authority, rest⟩, -, hurl⟩ := Option.bind_eq_some_iff.mp h
  cases hurl
  exact (sameOrigin_withTail _ _).1

theorem scheme_readOther {scheme : String} {cs : List Char} {url : Url}
    (h : readOther? scheme cs = some url) : url.scheme = scheme := by
  unfold readOther? at h
  split at h
  · exact scheme_readAfterSlashes h
  · cases h
    exact (sameOrigin_withTail _ _).1
  · cases h
    exact (sameOrigin_withTail _ _).1

/-! ### References that are no files -/

/-- Behind two slashes stands a host, and nothing of the other URL matters but its scheme. -/
theorem readRelative_of_twoSlashes {cs : List Char} (h : hasTwoSlashes cs = true) :
    ∃ rest, ∀ base, readRelative? base cs = readAfterSlashes? base.scheme rest := by
  obtain _ | ⟨c, _ | ⟨d, tail⟩⟩ := cs
  · cases h
  · cases h
  simp only [hasTwoSlashes, Bool.and_eq_true] at h
  obtain ⟨hc, hd⟩ := h
  -- Two forward slashes have a branch of their own; of any others all that follow are skipped.
  by_cases hforward : c = '/' ∧ d = '/'
  · obtain ⟨rfl, rfl⟩ := hforward
    exact ⟨tail, fun base => rfl⟩
  · refine ⟨(c :: d :: tail).dropWhile isSlash, fun base => ?_⟩
    unfold readRelative?
    split
    next heq => cases heq
    next heq =>
      cases heq
      cases hc
    next heq =>
      cases heq
      cases hc
    next heq =>
      cases heq
      rw [if_pos hc]
      split
      next heq =>
        cases heq
        exact absurd ⟨rfl, rfl⟩ hforward
      next => rw [if_pos (by simp [hd])]

/-- Without two slashes no host is named. -/
theorem readRelative_of_local {base url : Url} {cs : List Char} (h : hasTwoSlashes cs = false)
    (hread : readRelative? base cs = some url) : url.SameOrigin base := by
  unfold readRelative? at hread
  split at hread
  next =>
    cases hread
    exact ⟨rfl, rfl⟩
  next =>
    cases hread
    exact sameOrigin_withTail _ _
  next =>
    cases hread
    exact ⟨rfl, rfl⟩
  next c rest _ _ =>
    split at hread
    next hc =>
      split at hread
      next heq =>
        cases heq
        cases h
      next =>
        split at hread
        next hd =>
          -- A second slash would be one of two.
          cases rest with
          | nil => cases hd
          | cons d tail =>
            rw [List.head?_cons, Option.map_some, Option.getD_some] at hd
            rw [hasTwoSlashes, hc, hd] at h
            cases h
        next =>
          cases hread
          exact sameOrigin_withTail _ _
    next =>
      cases hread
      exact sameOrigin_withTail _ _

/-! ### Files -/

/-- The URL of a file has a host, and neither user nor port. -/
def HasPlainHost (url : Url) : Prop :=
  ∃ host, url.authority = some { Authority.blank with host }

theorem hasPlainHost_fileUrl (host : Option Host) (path : ReadPath × List Char) :
    (fileUrl host path).HasPlainHost := by
  refine ⟨(if path.1.dropsHost then none else host).getD (.name ""), ?_⟩
  exact (sameOrigin_withTail _ _).2

theorem scheme_fileUrl (host : Option Host) (path : ReadPath × List Char) :
    (fileUrl host path).scheme = "file" :=
  (sameOrigin_withTail _ _).1

theorem startsWithDrive_of_not_isAlpha {c : Char} (rest : List Char) (h : c.isAlpha = false) :
    startsWithDrive (c :: rest) = false := by
  cases rest with
  | nil => rfl
  | cons d tail => simp [startsWithDrive, isDrive, h]

theorem authority_readRooted (base : Option Url) (cs : List Char) :
    (readRooted base cs).authority =
      some { Authority.blank with host := (fileRoot base cs).2.getD (.name "") } :=
  (sameOrigin_withTail _ _).2

/-- Behind one slash, the host is that of the other URL if there is no drive. -/
theorem readRooted_of_local {base : Url} {cs : List Char} (hscheme : base.scheme = "file")
    (hhost : base.HasPlainHost) (hdrive : startsWithDrive cs = false)
    (hbase : (base.segments.head?.map isNormalDrive).getD false = false) :
    (readRooted (some base) cs).SameOrigin base := by
  obtain ⟨host, hhost⟩ := hhost
  -- Without a drive on either side, the host is the one that the base has.
  have hroot : (fileRoot (some base) cs).2 = some host := by
    simp only [fileRoot, hdrive, Bool.false_eq_true, ↓reduceIte]
    split
    next first rest hsegments =>
      rw [hsegments, List.head?_cons, Option.map_some, Option.getD_some] at hbase
      rw [hbase, if_neg Bool.false_ne_true, hhost]
      rfl
    next =>
      rw [hhost]
      rfl
  refine ⟨(scheme_fileUrl _ _).trans hscheme.symm, ?_⟩
  rw [authority_readRooted, hroot, hhost]
  rfl

/-- Behind one slash, the host of the other URL does not matter if there is a drive. -/
theorem readRooted_moveTo {base : Url} {cs : List Char} (authority : Option Authority)
    (h : startsWithDrive cs = true ∨ (base.segments.head?.map isNormalDrive).getD false = true) :
    readRooted (some (base.moveTo authority)) cs = readRooted (some base) cs := by
  -- The authority of the base is asked for only where neither side has a drive.
  have hroot : fileRoot (some (base.moveTo authority)) cs = fileRoot (some base) cs := by
    have hsegments : (base.moveTo authority).segments = base.segments := rfl
    simp only [fileRoot, hsegments]
    split
    · rfl
    next hdrive =>
      have hbase := h.resolve_left hdrive
      split
      next first rest heq =>
        rw [heq, List.head?_cons, Option.map_some, Option.getD_some] at hbase
        rw [hbase, if_pos rfl, if_pos rfl]
      next heq =>
        rw [heq] at hbase
        cases hbase
  unfold readRooted
  rw [hroot]

/-- A file that is named without host and drive is on the host of the other URL. -/
theorem readFile_of_local {base url : Url} {cs : List Char} (hscheme : base.scheme = "file")
    (hhost : base.HasPlainHost) (h : base.departsAsFile cs = false)
    (hread : readFile? (some base) cs = some url) : url.SameOrigin base := by
  -- The cases are those of the reader, and in those that lead elsewhere the reference departs.
  unfold readFile? at hread
  split at hread
  next c rest =>
    rw [departsAsFile] at h
    split at hread
    next hc =>
      rw [if_pos hc, Bool.or_eq_false_iff, Bool.or_eq_false_iff] at h
      obtain ⟨⟨hslashes, hdrive⟩, hbase⟩ := h
      split at hread
      next d tail =>
        split at hread
        next hd =>
          rw [hasTwoSlashes, hc, hd] at hslashes
          cases hslashes
        next =>
          cases hread
          exact readRooted_of_local hscheme hhost hdrive hbase
      next =>
        cases hread
        exact readRooted_of_local hscheme hhost hdrive hbase
    next hc =>
      rw [if_neg hc] at h
      split at hread
      next heq => cases heq
      next heq =>
        cases heq
        split at hread
        · cases hread
          exact sameOrigin_withTail _ _
        · split at hread
          · cases hread
            exact ⟨rfl, rfl⟩
          · rw [h, if_neg Bool.false_ne_true] at hread
            cases hread
            exact sameOrigin_withTail _ _
  next =>
    cases hread
    exact ⟨rfl, rfl⟩

/-- A file that is named with host or drive is there, whatever host the other URL has. -/
theorem readFile_moveTo {base : Url} {cs : List Char} (authority : Option Authority)
    (h : base.departsAsFile cs = true) :
    readFile? (some (base.moveTo authority)) cs = readFile? (some base) cs := by
  cases cs with
  | nil => cases h
  | cons c rest =>
    rw [departsAsFile] at h
    unfold readFile?
    by_cases hc : isSlash c
    · rw [if_pos hc] at h
      simp only [if_pos hc]
      cases rest with
      | nil =>
        refine congrArg some (readRooted_moveTo authority ?_)
        simpa [hasTwoSlashes] using h
      | cons d tail =>
        by_cases hd : isSlash d
        · simp only [if_pos hd]
        · simp only [if_neg hd]
          refine congrArg some (readRooted_moveTo authority ?_)
          simpa [hasTwoSlashes, hd] using h
    · rw [if_neg hc] at h
      -- A drive begins with a letter, so this is neither a query nor a fragment.
      have hletter : c.isAlpha = true := by
        cases hletter : c.isAlpha with
        | true => rfl
        | false =>
          rw [startsWithDrive_of_not_isAlpha rest hletter] at h
          cases h
      have hquery : (c == '?') = false := by
        rw [beq_eq_false_iff_ne]
        rintro rfl
        cases hletter
      have hfragment : (c == '#') = false := by
        rw [beq_eq_false_iff_ne]
        rintro rfl
        cases hletter
      simp only [hc, hquery, hfragment, h, Bool.false_eq_true, ↓reduceIte]

/-! ### URLs that stand alone -/

theorem hasPlainHost_readFile {cs : List Char} {url : Url} (h : readFile? none cs = some url) :
    url.HasPlainHost := by
  -- However the slashes fall, it ends with a host that has been read for files, or with none.
  unfold readFile? at h
  split at h
  next c rest =>
    split at h
    · split at h
      next d tail =>
        split at h
        · obtain ⟨⟨host, behind⟩, -, hurl⟩ := Option.bind_eq_some_iff.mp h
          cases host <;> cases hurl <;> exact hasPlainHost_fileUrl _ _
        · cases h
          exact hasPlainHost_fileUrl _ _
      next =>
        cases h
        exact hasPlainHost_fileUrl _ _
    · cases h
      exact hasPlainHost_fileUrl _ _
  next =>
    cases h
    exact hasPlainHost_fileUrl _ _

theorem ofScheme_eq_file_iff {scheme : String} :
    SchemeKind.ofScheme scheme = .file ↔ scheme = "file" := by
  unfold SchemeKind.ofScheme
  split
  next h => exact ⟨fun _ => eq_of_beq h, fun _ => rfl⟩
  next h =>
    refine ⟨fun hkind => ?_, fun heq => absurd (beq_iff_eq.mpr heq) h⟩
    split at hkind <;> cases hkind

/-- The URL of a file that stands alone has neither user nor port. -/
theorem hasPlainHost_parse {text : String} {url : Url} (h : parse? text = some url)
    (hfile : url.scheme = "file") : url.HasPlainHost := by
  unfold parse? read? at h
  -- Only what is read as a file gets the scheme of files.
  split at h
  next scheme rest _ =>
    unfold readWithScheme? at h
    split at h
    · exact hasPlainHost_readFile h
    next hkind =>
      rw [← scheme_readOther h, ofScheme_eq_file_iff.mpr hfile] at hkind
      cases hkind
    next hkind =>
      have hscheme : url.scheme = scheme := scheme_readAfterSlashes h
      rw [← hscheme, ofScheme_eq_file_iff.mpr hfile] at hkind
      cases hkind
  next => cases h
  next heq => cases heq

/-! ### References -/

section References

variable {base url : Url} {text scheme : String} {rest : List Char}

/-- There are two slashes exactly if the slashes at the beginning are not fewer. -/
theorem hasTwoSlashes_eq_false_iff {cs : List Char} :
    hasTwoSlashes cs = false ↔ (cs.takeWhile isSlash).length < 2 := by
  obtain _ | ⟨c, _ | ⟨d, tail⟩⟩ := cs
  · simp [hasTwoSlashes]
  · cases hc : isSlash c <;> simp [hasTwoSlashes, hc]
  · cases hc : isSlash c <;> cases hd : isSlash d <;> simp [hasTwoSlashes, hc, hd]

theorem join_of_scheme (h : readScheme? (clean text) = some (scheme, rest)) :
    base.join? text = readWithScheme? (some base) scheme rest := by
  simp only [join?, read?, h]

theorem join_of_no_scheme (h : readScheme? (clean text) = none) :
    base.join? text =
      if (clean text).head? == some '#' then
        some { base with fragment := readFragment (clean text) }
      else if base.isOpaque then none
      else if base.kind == .file then readFile? (some base) (clean text)
      else readRelative? base (unbroken (clean text)) := by
  simp only [join?, read?, h]

theorem departs_of_scheme (h : readScheme? (clean text) = some (scheme, rest)) :
    base.departs text =
      match SchemeKind.ofScheme scheme with
      | .file => base.scheme != scheme || base.departsAsFile rest
      | .special => base.scheme != scheme || hasTwoSlashes (unbroken rest)
      | .other => true := by
  simp only [departs, h]

theorem departs_of_no_scheme (h : readScheme? (clean text) = none) :
    base.departs text =
      if base.kind == .file then base.departsAsFile (clean text)
      else hasTwoSlashes (unbroken (clean text)) := by
  simp only [departs, h]

/-- Under another scheme nothing of the other URL matters. -/
theorem readWithScheme_of_ne (h : base.scheme ≠ scheme) :
    readWithScheme? (some base) scheme rest = readWithScheme? none scheme rest := by
  unfold readWithScheme?
  rw [Option.filter_some, beq_false_of_ne h, if_neg Bool.false_ne_true]
  rfl

/-- Under the same scheme a URL may be a relative reference all the same. -/
theorem readWithScheme_self :
    readWithScheme? (some base) base.scheme rest =
      match SchemeKind.ofScheme base.scheme with
      | .file => readFile? (some base) rest
      | .other => readOther? base.scheme (unbroken rest)
      | .special =>
        if hasTwoSlashes (unbroken rest) then
          readAfterSlashes? base.scheme
            ((unbroken rest).drop ((unbroken rest).takeWhile isSlash).length)
        else readRelative? base (unbroken rest) := by
  unfold readWithScheme?
  rw [Option.filter_some, beq_self_eq_true, if_pos rfl]
  cases SchemeKind.ofScheme base.scheme with
  | file => rfl
  | other => rfl
  | special =>
    dsimp only
    cases hslashes : hasTwoSlashes (unbroken rest) with
    | true =>
      rw [if_neg, if_pos rfl]
      rw [← hasTwoSlashes_eq_false_iff, hslashes]
      exact Bool.noConfusion
    | false => rw [if_pos (hasTwoSlashes_eq_false_iff.mp hslashes), if_neg Bool.false_ne_true]

/-- A reference that does not say itself where it leads, leads to where the other URL does. -/
theorem join_of_local (hbase : base.scheme = "file" → base.HasPlainHost)
    (h : base.departs text = false) (hjoin : base.join? text = some url) : url.SameOrigin base := by
  cases hread : readScheme? (clean text) with
  | some found =>
    obtain ⟨scheme, rest⟩ := found
    rw [departs_of_scheme hread] at h
    rw [join_of_scheme hread] at hjoin
    -- Only files and special schemes have references with a scheme that are relative.
    cases hkind : SchemeKind.ofScheme scheme with
    | file =>
      rw [hkind, Bool.or_eq_false_iff, bne_eq_false_iff_eq] at h
      obtain ⟨rfl, hlocal⟩ := h
      have hfile := ofScheme_eq_file_iff.mp hkind
      rw [readWithScheme_self, hkind] at hjoin
      exact readFile_of_local hfile (hbase hfile) hlocal hjoin
    | special =>
      rw [hkind, Bool.or_eq_false_iff, bne_eq_false_iff_eq] at h
      obtain ⟨rfl, hlocal⟩ := h
      rw [readWithScheme_self, hkind] at hjoin
      dsimp only at hjoin
      rw [hlocal, if_neg Bool.false_ne_true] at hjoin
      exact readRelative_of_local hlocal hjoin
    | other =>
      rw [hkind] at h
      cases h
  | none =>
    rw [departs_of_no_scheme hread] at h
    rw [join_of_no_scheme hread] at hjoin
    split at hjoin
    · cases hjoin
      exact ⟨rfl, rfl⟩
    · split at hjoin
      · cases hjoin
      · split at hjoin
        next hkind =>
          rw [if_pos hkind] at h
          have hfile := ofScheme_eq_file_iff.mp (eq_of_beq hkind)
          exact readFile_of_local hfile (hbase hfile) h hjoin
        next hkind =>
          rw [if_neg hkind] at h
          exact readRelative_of_local h hjoin

/-- A fragment alone does not say where it leads. -/
theorem not_fragment_of_departs (hread : readScheme? (clean text) = none)
    (h : base.departs text = true) : ((clean text).head? == some '#') = false := by
  rw [departs_of_no_scheme hread] at h
  rw [beq_eq_false_iff_ne]
  intro hhead
  obtain ⟨tail, htail⟩ := List.head?_eq_some_iff.mp hhead
  rw [htail] at h
  split at h
  · rw [departsAsFile, if_neg (by decide), startsWithDrive_of_not_isAlpha tail rfl] at h
    cases h
  · have hunbroken : unbroken ('#' :: tail) = '#' :: unbroken tail := rfl
    rw [hunbroken] at h
    cases hrest : unbroken tail with
    | nil =>
      rw [hrest] at h
      cases h
    | cons c rest =>
      rw [hrest] at h
      cases h

/-- For a reference that says itself where it leads, it does not matter where the other URL does. -/
theorem join_of_departs (authority : Option Authority) (h : base.departs text = true) :
    (base.moveTo authority).join? text = base.join? text := by
  cases hread : readScheme? (clean text) with
  | some found =>
    obtain ⟨scheme, rest⟩ := found
    rw [departs_of_scheme hread] at h
    rw [join_of_scheme hread, join_of_scheme hread]
    -- Under the same scheme the reference may still be relative, and under another one it is not.
    by_cases hscheme : base.scheme = scheme
    · subst hscheme
      have hmoved := @readWithScheme_self (base.moveTo authority) rest
      rw [show (base.moveTo authority).scheme = base.scheme from rfl] at hmoved
      rw [hmoved, readWithScheme_self]
      cases hkind : SchemeKind.ofScheme base.scheme with
      | file =>
        rw [hkind] at h
        dsimp only at h ⊢
        rw [bne_self_eq_false, Bool.false_or] at h
        exact readFile_moveTo authority h
      | special =>
        rw [hkind] at h
        dsimp only at h ⊢
        rw [bne_self_eq_false, Bool.false_or] at h
        rw [if_pos h, if_pos h]
      | other => rfl
    · have hmoved : (base.moveTo authority).scheme ≠ scheme := hscheme
      rw [readWithScheme_of_ne hmoved, readWithScheme_of_ne hscheme]
  | none =>
    have hfragment := not_fragment_of_departs hread h
    rw [departs_of_no_scheme hread] at h
    rw [join_of_no_scheme hread, join_of_no_scheme hread]
    have hkind : (base.moveTo authority).kind = base.kind := rfl
    have hopaque : (base.moveTo authority).isOpaque = base.isOpaque := rfl
    rw [hfragment, if_neg Bool.false_ne_true, if_neg Bool.false_ne_true, hkind, hopaque]
    split
    · rfl
    · split
      next hfile =>
        rw [if_pos hfile] at h
        exact readFile_moveTo authority h
      next hfile =>
        rw [if_neg hfile] at h
        obtain ⟨rest, hrest⟩ := readRelative_of_twoSlashes h
        rw [hrest, hrest]
        rfl

/-- An absolute path leads elsewhere exactly if it begins with two slashes. -/
theorem departs_of_slash {cs : List Char} (hfile : base.kind ≠ .file)
    (hslash : clean text = '/' :: cs) :
    base.departs text = hasTwoSlashes ('/' :: unbroken cs) := by
  have hread : readScheme? (clean text) = none := by
    rw [hslash]
    rfl
  rw [departs_of_no_scheme hread, if_neg (by simpa using hfile), hslash]
  rfl

end References

end Inbound.Url
