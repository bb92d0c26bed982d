import X424.Foundation.Paths
import X424.Js.Url

/-!
# Resource grants

The second part of `auth/issuance.ts`: a grant is an origin and a path prefix.
The code compares normalized texts; what it decides is whether the segments of
the prefix begin the segments of the resource's path.
-/

namespace X424

open Foundation

/-! ## Paths -/

/-- `pathname.split("/")` without the empty texts. -/
def pathSegments (pathname : JsString) : List JsString :=
  (pathname.splitOn 0x2F).filter fun segment => !segment.isEmpty

def normalizeAuthorizedPath (pathname : JsString) : Option JsString :=
  if pathname.head? ≠ some 0x2F then none
  else if includes pathname (js "%") || includes pathname (js "\\") ||
      includes pathname [0x00] then none
  else if includes pathname (js "//") then none
  else if (pathSegments pathname).any fun segment =>
      segment == js "." || segment == js ".." then none
  else if (pathSegments pathname).isEmpty then some (js "/")
  else some (js "/" ++ [0x2F].intercalate (pathSegments pathname))

structure ResourceUriGrant where
  origin : JsString
  pathPrefix : JsString
  deriving DecidableEq, Repr

/-- `grant.pathPrefix || "/"`. -/
def ResourceUriGrant.rawPrefix (grant : ResourceUriGrant) : JsString :=
  if grant.pathPrefix = [] then js "/" else grant.pathPrefix

def ResourceUriGrant.authorizes (urls : UrlParser) (origin path : JsString)
    (grant : ResourceUriGrant) : Bool :=
  match urls.parse grant.origin with
  | none => false
  | some grantOrigin =>
      if grantOrigin.protocol ≠ js "https:" ∨ grantOrigin.pathname ≠ js "/" ∨
          grantOrigin.search ≠ [] ∨ grantOrigin.hash ≠ [] ∨ grantOrigin.username ≠ [] ∨
          grantOrigin.password ≠ [] then false
      else if origin ≠ grantOrigin.origin then false
      else if includes grant.rawPrefix (js "%") || includes grant.rawPrefix (js "\\") then false
      else
        match normalizeAuthorizedPath grant.rawPrefix with
        | none => false
        | some allowed =>
            allowed == js "/" || path == allowed ||
              (if allowed.getLast? = some 0x2F then allowed
                else allowed ++ js "/").isPrefixOf path

def resourceUriAuthorized (urls : UrlParser) (uri : JsString) (grants : List ResourceUriGrant) :
    Bool :=
  match urls.parse uri with
  | none => false
  | some parsed =>
      if parsed.username ≠ [] ∨ parsed.password ≠ [] ∨ parsed.protocol ≠ js "https:" then false
      else
        match normalizeAuthorizedPath parsed.pathname with
        | none => false
        | some path => grants.any (ResourceUriGrant.authorizes urls parsed.origin path)

/-! ## What is granted -/

structure CleanPath (path : JsString) : Prop where
  percent : (0x25 : UInt16) ∉ path
  backslash : (0x5C : UInt16) ∉ path
  nul : (0x00 : UInt16) ∉ path
  doubled : ¬ js "//" <:+: path
  dots : ∀ segment ∈ pathSegments path, segment ≠ js "." ∧ segment ≠ js ".."

/-- An `https` origin and nothing else. -/
structure WebUrl.OriginOnly (url : WebUrl) : Prop where
  protocol : url.protocol = js "https:"
  pathname : url.pathname = js "/"
  search : url.search = []
  hash : url.hash = []
  username : url.username = []
  password : url.password = []

structure ResourceUriGrant.Covers (urls : UrlParser) (grant : ResourceUriGrant) (url : WebUrl) :
    Prop where
  origin : ∃ origin, urls.parse grant.origin = some origin ∧ origin.OriginOnly ∧
    origin.origin = url.origin
  absolute : grant.rawPrefix.head? = some 0x2F
  clean : CleanPath grant.rawPrefix
  within : pathSegments grant.rawPrefix <+: pathSegments url.pathname

/-- An `https` URL without credentials, with a clean path in some granted subtree. -/
def ResourceAuthorized (urls : UrlParser) (uri : JsString) (grants : List ResourceUriGrant) :
    Prop :=
  ∃ url, urls.parse uri = some url ∧ url.protocol = js "https:" ∧ url.username = [] ∧
    url.password = [] ∧ CleanPath url.pathname ∧ ∃ grant ∈ grants, grant.Covers urls url

theorem includes_singleton {text : JsString} {u : UInt16} :
    includes text [u] = true ↔ u ∈ text :=
  decide_eq_true_iff.trans (List.singleton_infix_iff u text)

theorem mem_pathSegments {path segment : JsString} (h : segment ∈ pathSegments path) :
    segment ≠ [] ∧ (0x2F : UInt16) ∉ segment := by
  rw [pathSegments, List.mem_filter, Bool.not_eq_true', List.isEmpty_eq_false_iff] at h
  exact ⟨h.2, Paths.not_mem_of_mem_splitOn h.1⟩

def normalizedPath (path : JsString) : JsString :=
  if pathSegments path = [] then js "/" else Paths.render 0x2F (pathSegments path)

theorem normalizeAuthorizedPath_eq_some {path normalized : JsString} :
    normalizeAuthorizedPath path = some normalized ↔
      path.head? = some 0x2F ∧ CleanPath path ∧ normalized = normalizedPath path := by
  have hmarks : (includes path (js "%") || includes path (js "\\") || includes path [0x00]) = true ↔
      (0x25 : UInt16) ∈ path ∨ (0x5C : UInt16) ∈ path ∨ (0x00 : UInt16) ∈ path := by
    rw [Bool.or_eq_true, Bool.or_eq_true, or_assoc]
    exact or_congr includes_singleton (or_congr includes_singleton includes_singleton)
  have hdots : ((pathSegments path).any fun segment => segment == js "." || segment == js "..") =
      true ↔ ∃ segment ∈ pathSegments path, segment = js "." ∨ segment = js ".." := by
    simp only [List.any_eq_true, Bool.or_eq_true, beq_iff_eq]
  rw [normalizeAuthorizedPath]
  split_ifs with habsolute hmark hdoubled hdot hempty
  · exact iff_of_false nofun fun h => habsolute h.1
  · rw [hmarks] at hmark
    refine iff_of_false nofun fun h => ?_
    exact hmark.elim h.2.1.percent fun hmark => hmark.elim h.2.1.backslash h.2.1.nul
  · exact iff_of_false nofun fun h => h.2.1.doubled (of_decide_eq_true hdoubled)
  · obtain ⟨segment, hsegment, heq⟩ := hdots.mp hdot
    refine iff_of_false nofun fun h => ?_
    exact heq.elim (h.2.1.dots segment hsegment).1 (h.2.1.dots segment hsegment).2
  all_goals
    have hclean : CleanPath path := by
      rw [hmarks, not_or, not_or] at hmark
      refine ⟨hmark.1, hmark.2.1, hmark.2.2, fun h => hdoubled (decide_eq_true h), ?_⟩
      intro segment hsegment
      rw [hdots, not_exists] at hdot
      exact not_or.mp fun h => hdot segment ⟨hsegment, h⟩
    rw [Option.some.injEq, normalizedPath]
  · rw [if_pos (List.isEmpty_iff.mp hempty)]
    exact ⟨fun h => ⟨not_not.mp habsolute, hclean, h.symm⟩, fun h => h.2.2.symm⟩
  · have hne : pathSegments path ≠ [] := fun h => hempty (List.isEmpty_iff.mpr h)
    rw [if_neg hne, Paths.render_eq_intercalate 0x2F hne]
    exact ⟨fun h => ⟨not_not.mp habsolute, hclean, h.symm⟩, fun h => h.2.2.symm⟩

theorem getLast_render {segments : List JsString}
    (h : ∀ segment ∈ segments, segment ≠ [] ∧ (0x2F : UInt16) ∉ segment) (hne : segments ≠ []) :
    (Paths.render 0x2F segments).getLast? ≠ some 0x2F := by
  obtain ⟨front, last, rfl⟩ := List.eq_nil_or_concat segments |>.resolve_left hne
  obtain ⟨hlast, hslash⟩ := h last (by simp)
  rw [List.concat_eq_append, Paths.render_append, Paths.render_cons, Paths.render, Paths.render,
    List.flatMap_nil, List.append_nil, List.getLast?_append_of_ne_nil _ (List.cons_ne_nil _ _),
    List.getLast?_cons_of_ne_nil hlast]
  exact fun hmem => hslash (List.mem_of_getLast? hmem)

theorem normalizedPath_within {path allowed : JsString} :
    (normalizedPath allowed == js "/" || normalizedPath path == normalizedPath allowed ||
      (if (normalizedPath allowed).getLast? = some 0x2F then normalizedPath allowed
        else normalizedPath allowed ++ js "/").isPrefixOf (normalizedPath path)) = true ↔
      pathSegments allowed <+: pathSegments path := by
  rw [Bool.or_eq_true, Bool.or_eq_true, beq_iff_eq, beq_iff_eq, List.isPrefixOf_iff_prefix]
  by_cases hallowed : pathSegments allowed = []
  · rw [normalizedPath, if_pos hallowed, hallowed]
    exact iff_of_true (.inl (.inl rfl)) List.nil_prefix
  have hroot : ∀ segments : List JsString, segments ≠ [] →
      (∀ segment ∈ segments, segment ≠ [] ∧ (0x2F : UInt16) ∉ segment) →
        Paths.render 0x2F segments ≠ js "/" := by
    intro segments hne hsegments heq
    refine getLast_render hsegments hne ?_
    rw [heq]
    rfl
  have hlast := getLast_render (fun segment h => mem_pathSegments h) hallowed
  have hallowedRoot := hroot _ hallowed fun segment h => mem_pathSegments h
  rw [normalizedPath, if_neg hallowed, if_neg hlast, or_iff_right hallowedRoot]
  by_cases hpath : pathSegments path = []
  · rw [normalizedPath, if_pos hpath, hpath, List.prefix_nil]
    refine iff_of_false (not_or_intro (Ne.symm hallowedRoot) fun hlong => ?_) hallowed
    have hlength := hlong.length_le
    have hshort : (js "/").length = 1 := rfl
    rw [List.length_append, hshort] at hlength
    exact (Paths.render_eq_nil 0x2F).not.mpr hallowed
      (List.eq_nil_of_length_eq_zero (by omega))
  · rw [normalizedPath, if_neg hpath]
    exact Paths.prefix_render_iff (fun segment h => (mem_pathSegments h).2)
      fun segment h => (mem_pathSegments h).2

section Grants

variable {urls : UrlParser} {grant : ResourceUriGrant} {url : WebUrl}

theorem ResourceUriGrant.authorizes_iff :
    grant.authorizes urls url.origin (normalizedPath url.pathname) = true ↔
      grant.Covers urls url := by
  rw [ResourceUriGrant.authorizes]
  split
  · rename_i hparse
    refine iff_of_false Bool.false_ne_true fun h => ?_
    obtain ⟨origin, horigin, -⟩ := h.origin
    cases hparse.symm.trans horigin
  · rename_i origin hparse
    split_ifs with honly hsame hmarks
    · refine iff_of_false not_false fun h => ?_
      obtain ⟨found, hfound, hfoundOnly, -⟩ := h.origin
      cases hparse.symm.trans hfound
      simp [hfoundOnly.protocol, hfoundOnly.pathname, hfoundOnly.search, hfoundOnly.hash,
        hfoundOnly.username, hfoundOnly.password] at honly
    · refine iff_of_false not_false fun h => ?_
      obtain ⟨found, hfound, -, hfoundSame⟩ := h.origin
      cases hparse.symm.trans hfound
      exact hsame hfoundSame.symm
    · refine iff_of_false not_false fun h => ?_
      rw [Bool.or_eq_true] at hmarks
      exact hmarks.elim (fun hmark => h.clean.percent (includes_singleton.mp hmark))
        fun hmark => h.clean.backslash (includes_singleton.mp hmark)
    · have horigin : ∃ origin, urls.parse grant.origin = some origin ∧ origin.OriginOnly ∧
          origin.origin = url.origin := by
        simp only [not_or, not_not] at honly
        obtain ⟨hprotocol, hpathname, hsearch, hhash, husername, hpassword⟩ := honly
        exact ⟨origin, hparse, ⟨hprotocol, hpathname, hsearch, hhash, husername, hpassword⟩,
          (not_not.mp hsame).symm⟩
      split
      · rename_i hnormalized
        refine iff_of_false Bool.false_ne_true fun h => ?_
        have hsome := normalizeAuthorizedPath_eq_some.mpr ⟨h.absolute, h.clean, rfl⟩
        cases hnormalized.symm.trans hsome
      · rename_i allowed hnormalized
        obtain ⟨habsolute, hclean, rfl⟩ := normalizeAuthorizedPath_eq_some.mp hnormalized
        rw [normalizedPath_within]
        exact ⟨fun h => ⟨horigin, habsolute, hclean, h⟩, fun h => h.within⟩

/-- A resource is authorized exactly when it lies in a granted subtree. -/
theorem resourceUriAuthorized_iff (urls : UrlParser) (uri : JsString)
    (grants : List ResourceUriGrant) :
    resourceUriAuthorized urls uri grants = true ↔ ResourceAuthorized urls uri grants := by
  rw [resourceUriAuthorized, ResourceAuthorized]
  split
  · rename_i hparse
    refine iff_of_false Bool.false_ne_true ?_
    rintro ⟨url, hurl, -⟩
    cases hparse.symm.trans hurl
  · rename_i url hparse
    split_ifs with hrefused
    · refine iff_of_false not_false ?_
      rintro ⟨found, hfound, hprotocol, husername, hpassword, -⟩
      cases hparse.symm.trans hfound
      exact hrefused.elim (absurd husername) fun h => h.elim (absurd hpassword) (absurd hprotocol)
    · simp only [not_or, not_not] at hrefused
      obtain ⟨husername, hpassword, hprotocol⟩ := hrefused
      have habsolute := urls.pathname_https hparse hprotocol
      split
      · rename_i hnormalized
        refine iff_of_false Bool.false_ne_true ?_
        rintro ⟨found, hfound, -, -, -, hclean, -⟩
        cases hparse.symm.trans hfound
        have hsome := normalizeAuthorizedPath_eq_some.mpr ⟨habsolute, hclean, rfl⟩
        cases hnormalized.symm.trans hsome
      · rename_i path hnormalized
        obtain ⟨-, hclean, rfl⟩ := normalizeAuthorizedPath_eq_some.mp hnormalized
        rw [List.any_eq_true]
        constructor
        · rintro ⟨grant, hgrant, hcovers⟩
          exact ⟨url, hparse, hprotocol, husername, hpassword, hclean, grant, hgrant,
            ResourceUriGrant.authorizes_iff.mp hcovers⟩
        · rintro ⟨found, hfound, -, -, -, -, grant, hgrant, hcovers⟩
          cases hparse.symm.trans hfound
          exact ⟨grant, hgrant, ResourceUriGrant.authorizes_iff.mpr hcovers⟩

end Grants

end X424
