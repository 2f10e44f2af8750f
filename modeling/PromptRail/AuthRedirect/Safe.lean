import PromptRail.AuthRedirect

/-!
# Redirects that stay

A redirect is safe if it begins with one slash and stays at the origin it is followed from. What is checked is the path as it is asked for,
and what is returned is the path with its dot segments resolved: where an empty segment comes to stand first, it begins with two slashes and
names another host.
-/

namespace PromptRail

namespace AuthRedirect

open PyText (Text)
open Url (HostParser Origin WebUrl RootedTwice StartsTwice)

/-! ## Safe paths -/

/-- A path that begins with exactly one slash and stays at any origin it is resolved against. -/
structure SafePath (parseHost : HostParser) (t : Text) : Prop where
  begins : ∃ rest, t = '/' :: rest ∧ rest.head? ≠ some '/'
  stays : ∀ base : Origin, ∃ url, Url.parse parseHost base t = some url ∧ url.origin = base

/-- What a value is parsed into. -/
def partsOf (value : Text) : Url.Parts := Url.parts (Url.clean value)

/-- A value that passes the check names no host, or `localhost`. -/
def Taken (parseHost : HostParser) (value : Text) : Prop :=
  isLocal value = true ∧ ∀ authority ∈ (partsOf value).authority, Url.originOf parseHost .http authority = some localhost

/-- A value is taken in whose path an empty segment comes to stand first, and is not the last one. -/
def Escapes (parseHost : HostParser) (value : Text) : Prop :=
  Taken parseHost value ∧ RootedTwice 0 (Url.segments (partsOf value).path)

/-- The parser writes the path as it stands. -/
def WritesItself (parseHost : HostParser) (t : Text) : Prop := ∃ url, Url.parse parseHost localhost t = some url ∧ url.written = t

namespace SafeAux

variable {parseHost : HostParser} {value fallback : Text}

theorem of_isLocal {t : Text} (h : isLocal t = true) : t.head? = some '/' ∧ '\\' ∉ t := by
  simp only [isLocal, Bool.and_eq_true, Bool.not_eq_true', List.contains_eq_mem, decide_eq_false_iff_not] at h
  refine ⟨?_, h.2⟩
  obtain ⟨rest, rfl⟩ := List.isPrefixOf_iff_prefix.1 h.1.1
  rfl

theorem isLocal_iff {rest : Text} : isLocal ('/' :: rest) = true ↔ rest.head? ≠ some '/' ∧ '\\' ∉ '/' :: rest := by
  simp only [isLocal, Bool.and_eq_true, Bool.not_eq_true', List.contains_eq_mem, decide_eq_false_iff_not]
  refine and_congr_left fun _ => ?_
  cases rest with
  | nil => decide
  | cons c rest =>
    have hone : "/".toList.isPrefixOf ('/' :: c :: rest) = true := rfl
    have htwo : "//".toList.isPrefixOf ('/' :: c :: rest) = ('/' == c) := by
      show ('/' == '/' && ('/' == c && true)) = _
      rw [Bool.and_true]
      rfl
    rw [hone, htwo, List.head?_cons, beq_eq_false_iff_ne]
    exact ⟨fun h heq => h.2 (Option.some.inj heq).symm, fun h => ⟨rfl, fun heq => h (congrArg some heq.symm)⟩⟩

/-! ## What the parser keeps of a value -/

theorem mem_clean {c : Char} (h : c ∈ Url.clean value) : c ∈ value := by
  have hclean := List.mem_of_mem_filter h
  rw [List.mem_reverse] at hclean
  have hback := (List.dropWhile_suffix _).subset hclean
  rw [List.mem_reverse] at hback
  exact (List.dropWhile_suffix _).subset hback

theorem mem_breakAt {mark : Char} {t : Text} :
    (∀ c ∈ (Url.breakAt mark t).1, c ∈ t) ∧ ∀ part ∈ (Url.breakAt mark t).2, ∀ c ∈ part, c ∈ t := by
  refine ⟨fun c hc => (List.takeWhile_prefix _).subset hc, fun part hpart c hc => ?_⟩
  change (t.dropWhile (· != mark)).tail? = some part at hpart
  obtain ⟨d, hd⟩ : ∃ d, t.dropWhile (· != mark) = d :: part := by
    cases hdrop : t.dropWhile (· != mark) with
    | nil =>
      rw [hdrop] at hpart
      nomatch hpart
    | cons d u =>
      rw [hdrop] at hpart
      exact ⟨d, by rw [Option.some.inj hpart]⟩
  exact (List.dropWhile_suffix _).subset (hd ▸ List.mem_cons_of_mem d hc)

theorem mem_parts {c : Char} : (∀ q ∈ (partsOf value).query, c ∈ q → c ∈ value) ∧ ∀ f ∈ (partsOf value).fragment, c ∈ f → c ∈ value := by
  constructor
  · intro q hq hc
    exact mem_clean (mem_breakAt.1 c (mem_breakAt.2 q hq c hc))
  · intro f hf hc
    exact mem_clean (mem_breakAt.2 f hf c hc)

/-- A value that is taken is returned as the parser writes it. -/
theorem safe_taken (h : Taken parseHost value) (fallback : Text) :
    ∃ url, Url.parse parseHost localhost value = some url ∧ safeAuthRedirectPath parseHost value fallback = url.written ∧
      url.path = Url.pathOf [] (Url.segments (partsOf value).path) ∧
      url.query = (partsOf value).query.map (Url.percentEncode Url.specialQuerySet) := by
  obtain ⟨hlocal, hhost⟩ := h
  have hparse : Url.parse parseHost localhost value = some {
      origin := localhost
      path := Url.pathOf [] (Url.segments (partsOf value).path)
      query := (partsOf value).query.map (Url.percentEncode Url.specialQuerySet)
      fragment := (partsOf value).fragment.map (Url.percentEncode Url.fragmentSet) } := by
    cases hauthority : (partsOf value).authority with
    | none => exact Url.parse_relative hauthority
    | some authority =>
      have horigin : Url.originOf parseHost localhost.scheme authority = some localhost := hhost authority hauthority
      rw [Url.parse_absolute hauthority, horigin]
      rfl
  refine ⟨_, hparse, ?_, rfl, rfl⟩
  simp only [safeAuthRedirectPath, hlocal, if_true, hparse]
  rfl

/-- A value that is not taken is refused. -/
theorem safe_refused (h : ¬Taken parseHost value) (fallback : Text) : safeAuthRedirectPath parseHost value fallback = fallback := by
  unfold safeAuthRedirectPath
  split
  · rename_i hlocal
    split
    · rfl
    · rename_i url hparse
      split
      · rename_i horigin
        refine absurd ⟨hlocal, fun authority hauthority => ?_⟩ h
        rw [Url.parse_absolute hauthority] at hparse
        obtain ⟨origin, hfound, rfl⟩ := Option.map_eq_some_iff.1 hparse
        exact hfound.trans (congrArg some horigin)
      · rfl
  · rfl

/-! ## What is written -/

theorem written_cons {url : WebUrl} (h : Url.Written url) : ∃ s segs, url.path = s :: segs ∧
    url.written = '/' :: (s ++ (segs.flatMap fun t => '/' :: t) ++ url.search ++ url.hash) := by
  obtain ⟨s, segs, hpath⟩ := List.exists_cons_of_ne_nil h.path.ne_nil
  refine ⟨s, segs, hpath, ?_⟩
  simp only [WebUrl.written, WebUrl.pathname, hpath, List.flatMap_cons, List.cons_append]

/-- What is written begins with two slashes exactly if the path does. -/
theorem begins_written {url : WebUrl} (h : Url.Written url) :
    (∃ rest, url.written = '/' :: rest ∧ rest.head? ≠ some '/') ↔ ¬StartsTwice url.path := by
  obtain ⟨s, segs, hpath, hwritten⟩ := written_cons h
  have hplain := h.path.plain s (by rw [hpath]; exact List.mem_cons_self)
  rw [hwritten, hpath]
  constructor
  · rintro ⟨rest, heq, hrest⟩ ⟨hempty, hlength⟩
    obtain rfl := Option.some.inj hempty
    cases segs with
    | nil => exact absurd hlength (by decide)
    | cons t segs =>
      rw [← (List.cons.inj heq).2] at hrest
      exact hrest rfl
  · intro hstarts
    refine ⟨_, rfl, ?_⟩
    cases s with
    | cons c s =>
      intro heq
      have hslash := (hplain c List.mem_cons_self).2
      rw [Option.some.inj heq] at hslash
      exact absurd hslash (by decide)
    | nil =>
      cases segs with
      | cons t segs => exact absurd ⟨rfl, by simp⟩ hstarts
      | nil =>
        intro heq
        have hmarked : ∀ {mark : Char} {part : Option Text} {rest : Text}, mark ≠ '/' → rest.head? ≠ some '/' →
            (Url.marked mark part ++ rest).head? ≠ some '/' := by
          intro mark part rest hmark hrest
          rcases part with _ | _ | _
          · exact hrest
          · exact hrest
          · exact fun heq => hmark (Option.some.inj heq)
        have hhash : (url.hash ++ []).head? ≠ some '/' := hmarked (by decide) (by simp)
        rw [List.append_nil] at hhash
        refine absurd heq ?_
        rw [List.flatMap_nil, List.append_nil, List.nil_append]
        exact hmarked (by decide) hhash

theorem safePath_written {url : WebUrl} (h : Url.Written url) : SafePath parseHost url.written ↔ ¬StartsTwice url.path := by
  constructor
  · exact fun hsafe => (begins_written h).1 hsafe.begins
  · exact fun hstarts => ⟨(begins_written h).2 hstarts, fun base => ⟨_, Url.parse_written h hstarts parseHost base, rfl⟩⟩

/-- No backslash is written of a value without one. -/
theorem backslash_written {url : WebUrl} (hlocal : isLocal value = true) (hparse : Url.parse parseHost localhost value = some url) :
    '\\' ∉ url.written := by
  have hwritten := Url.written_parse hparse
  obtain ⟨-, hvalue⟩ := of_isLocal hlocal
  unfold Url.parse at hparse
  obtain ⟨origin, -, rfl⟩ := Option.map_eq_some_iff.1 hparse
  have hpart : ∀ {mark : Char} {set : Char → Bool} {part : Option Text}, mark ≠ '\\' → (∀ t ∈ part, '\\' ∈ t → '\\' ∈ value) →
      '\\' ∉ Url.marked mark (part.map (Url.percentEncode set)) := by
    intro mark set part hmark hsub hmem
    rcases Url.mem_marked hmem with heq | ⟨t, ht, hmem⟩
    · exact hmark heq.symm
    · obtain ⟨u, hu, rfl⟩ := Option.map_eq_some_iff.1 ht
      rcases Url.mem_percentEncode hmem with ⟨hmem, -⟩ | heq | ⟨n, hn, heq⟩
      · exact hvalue (hsub u hu hmem)
      · exact absurd heq (by decide)
      · have hslash := Url.isSlash_hexDigit.2 n hn
        rw [← heq] at hslash
        exact absurd hslash (by decide)
  rw [WebUrl.written, List.mem_append, List.mem_append]
  rintro ((hmem | hmem) | hmem)
  · rcases Url.mem_pathname hmem with heq | ⟨s, hs, hc⟩
    · exact absurd heq (by decide)
    · exact absurd (hwritten.path.plain s hs _ hc).2 (by decide)
  · exact hpart (by decide) (mem_parts.1) hmem
  · exact hpart (by decide) (mem_parts.2) hmem

/-- What is written is taken and written again as it is. -/
theorem safe_written {url : WebUrl} (hlocal : isLocal value = true) (hparse : Url.parse parseHost localhost value = some url)
    (hstarts : ¬StartsTwice url.path) (fallback : Text) : safeAuthRedirectPath parseHost url.written fallback = url.written := by
  have hwritten := Url.written_parse hparse
  obtain ⟨rest, heq, hrest⟩ := (begins_written hwritten).2 hstarts
  have hagain : isLocal url.written = true := by
    rw [heq]
    exact isLocal_iff.2 ⟨hrest, heq ▸ backslash_written hlocal hparse⟩
  simp only [safeAuthRedirectPath, hagain, if_true, Url.parse_written hwritten hstarts]
  exact Url.written_congr localhost

theorem escapes_iff (h : Taken parseHost value) {url : WebUrl} (hpath : url.path = Url.pathOf [] (Url.segments (partsOf value).path)) :
    Escapes parseHost value ↔ StartsTwice url.path := by
  rw [hpath, Url.startsTwice_pathOf [] (Url.plain_segments _).1]
  constructor
  · exact fun hescapes => Or.inr hescapes.2
  · rintro (⟨hnone, -⟩ | hrooted)
    · nomatch hnone
    · exact ⟨h, hrooted⟩

/-- A value is taken to a safe path exactly if it does not escape. -/
theorem safePath_iff (hfallback : SafePath parseHost fallback) :
    SafePath parseHost (safeAuthRedirectPath parseHost value fallback) ↔ ¬Escapes parseHost value := by
  by_cases htaken : Taken parseHost value
  · obtain ⟨url, hparse, hsafe, hpath, -⟩ := safe_taken htaken fallback
    rw [hsafe, safePath_written (Url.written_parse hparse), escapes_iff htaken hpath]
  · rw [safe_refused htaken]
    exact iff_of_true hfallback fun hescapes => htaken hescapes.1

/-- A safe path is taken unless it holds a backslash. -/
theorem taken_of_safePath (h : SafePath parseHost fallback) : Taken parseHost fallback ↔ '\\' ∉ fallback := by
  obtain ⟨⟨rest, rfl, hrest⟩, hstays⟩ := h
  refine ⟨fun htaken => (of_isLocal htaken.1).2, fun hnone => ⟨isLocal_iff.2 ⟨hrest, hnone⟩, fun authority hauthority => ?_⟩⟩
  obtain ⟨url, hparse, horigin⟩ := hstays localhost
  rw [Url.parse_absolute hauthority] at hparse
  obtain ⟨origin, hfound, rfl⟩ := Option.map_eq_some_iff.1 hparse
  exact hfound.trans (congrArg some horigin)

/-- A safe fallback is kept as a value exactly if it holds a backslash or is written as it stands. -/
theorem keeps_fallback_iff (h : SafePath parseHost fallback) :
    safeAuthRedirectPath parseHost fallback fallback = fallback ↔ '\\' ∈ fallback ∨ WritesItself parseHost fallback := by
  by_cases hslash : '\\' ∈ fallback
  · rw [safe_refused fun htaken => (taken_of_safePath h).1 htaken hslash]
    exact iff_of_true rfl (Or.inl hslash)
  · obtain ⟨url, hparse, hsafe, -⟩ := safe_taken ((taken_of_safePath h).2 hslash) fallback
    rw [hsafe, or_iff_right hslash]
    constructor
    · exact fun heq => ⟨url, hparse, heq⟩
    · rintro ⟨url', hparse', heq⟩
      rwa [Option.some.inj (hparse.symm.trans hparse')]

theorem safePath_default : SafePath parseHost defaultAuthRedirectPath ∧ SafePath parseHost defaultSignupRedirectPath := by
  have hconst : ∀ t : Text, (∃ url, Url.parse parseHost localhost t = some url ∧ url.written = t ∧ url.path.head? ≠ some []) →
      SafePath parseHost t := by
    rintro t ⟨url, hparse, rfl, hhead⟩
    exact (safePath_written (Url.written_parse hparse)).2 fun hstarts => hhead hstarts.1
  exact ⟨hconst _ ⟨_, rfl, by decide +kernel, by decide +kernel⟩, hconst _ ⟨_, rfl, by decide +kernel, by decide +kernel⟩⟩

/-- Where a query is followed to: to the default paths, or to where the requested path is taken. -/
theorem resolve_cases (search : Text) :
    requestedPath search = [] ∧ (resolveAuthRedirect parseHost search).nextPath = defaultAuthRedirectPath ∧
        (resolveAuthRedirect parseHost search).signupPath = defaultSignupRedirectPath ∨
      ∃ fallback, (fallback = defaultAuthRedirectPath ∨ fallback = defaultSignupRedirectPath) ∧
        (resolveAuthRedirect parseHost search).nextPath = safeAuthRedirectPath parseHost (requestedPath search) fallback ∧
        (resolveAuthRedirect parseHost search).signupPath = safeAuthRedirectPath parseHost (requestedPath search) fallback := by
  unfold resolveAuthRedirect
  dsimp only
  cases hrequested : requestedPath search with
  | nil => exact Or.inl ⟨rfl, rfl, rfl⟩
  | cons c rest =>
    refine Or.inr ⟨_, ?_, rfl, rfl⟩
    split
    · exact Or.inr rfl
    · exact Or.inl rfl

theorem not_escapes_nil : ¬Escapes parseHost [] := fun h => Bool.false_ne_true h.1.1

end SafeAux

open SafeAux

/-- A value is taken to a safe path exactly if it does not escape, and that path is taken to itself, if a fallback that is returned is
written as it stands or is refused itself; and a query is followed to safe paths exactly if the path it asks for does not escape. -/
theorem redirect_safe_iff (parseHost : HostParser) :
    (∀ value fallback, SafePath parseHost fallback →
      (SafePath parseHost (safeAuthRedirectPath parseHost value fallback) ∧
          safeAuthRedirectPath parseHost (safeAuthRedirectPath parseHost value fallback) fallback =
            safeAuthRedirectPath parseHost value fallback ↔
        ¬Escapes parseHost value ∧ (¬Taken parseHost value → '\\' ∈ fallback ∨ WritesItself parseHost fallback))) ∧
      ∀ search, (SafePath parseHost (resolveAuthRedirect parseHost search).nextPath ∧
          SafePath parseHost (resolveAuthRedirect parseHost search).signupPath ↔ ¬Escapes parseHost (requestedPath search)) := by
  constructor
  · intro value fallback hfallback
    rw [safePath_iff hfallback]
    refine and_congr_right fun hstays => ?_
    by_cases htaken : Taken parseHost value
    · obtain ⟨url, hparse, hsafe, hpath, -⟩ := safe_taken htaken fallback
      rw [hsafe]
      refine iff_of_true ?_ fun hrefused => absurd htaken hrefused
      exact safe_written htaken.1 hparse (fun hstarts => hstays ((escapes_iff htaken hpath).2 hstarts)) fallback
    · rw [safe_refused htaken, keeps_fallback_iff hfallback]
      exact ⟨fun h _ => h, fun h => h htaken⟩
  · intro search
    rcases resolve_cases search with ⟨hnone, hnext, hsignup⟩ | ⟨fallback, hdefault, hnext, hsignup⟩
    · rw [hnext, hsignup, hnone]
      exact iff_of_true safePath_default not_escapes_nil
    · have hfallback : SafePath parseHost fallback := by
        rcases hdefault with rfl | rfl
        · exact safePath_default.1
        · exact safePath_default.2
      rw [hnext, hsignup, and_self_iff]
      exact safePath_iff hfallback

/-- A parser of hosts that reads names as they are. -/
def plainHosts : HostParser := fun host => some (Url.lower host)

/-- A path whose first segment is a dot, and whose second one is empty. -/
def dottedPath : Text := "/.//attacker.example".toList

/-- The dot is resolved, and what is left begins with two slashes. -/
theorem redirect_escapes : ¬∀ value fallback, SafePath plainHosts fallback →
    SafePath plainHosts (safeAuthRedirectPath plainHosts value fallback) := by
  intro h
  have hsafe := h dottedPath defaultAuthRedirectPath safePath_default.1
  obtain ⟨rest, heq, hrest⟩ := hsafe.begins
  have hpath : safeAuthRedirectPath plainHosts dottedPath defaultAuthRedirectPath = "//attacker.example".toList := by decide +kernel
  rw [hpath] at heq
  obtain rfl := (List.cons.inj heq).2
  exact hrest rfl

theorem redirect_safe_device :
    SafePath plainHosts (safeAuthRedirectPath plainHosts "/device?code=ABCD-1234#approve".toList defaultAuthRedirectPath) := by
  refine (((redirect_safe_iff plainHosts).1 _ _ safePath_default.1).2 ⟨?_, fun hrefused => ?_⟩).1
  · rintro ⟨-, hrooted⟩
    have hstarts := (Url.startsTwice_pathOf [] (Url.plain_segments _).1).2 (Or.inr hrooted)
    exact absurd hstarts.1 (by decide +kernel)
  · refine absurd ⟨by decide, fun authority hauthority => ?_⟩ hrefused
    have hnone : (partsOf "/device?code=ABCD-1234#approve".toList).authority = none := by decide +kernel
    rw [hnone] at hauthority
    nomatch hauthority

end AuthRedirect

end PromptRail
