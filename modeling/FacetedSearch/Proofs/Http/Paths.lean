import FacetedSearch.Http.Application
import FacetedSearch.Proofs.Text.Pieces

/-!
# Paths below an index

What is done with an index is asked for under paths that name it.  A name that is not empty and
holds no slash leads to the route that is asked for.  Any other name makes a path that leads
elsewhere, and to the same place whichever of two routes was meant.  No page is found under such a
path, and no other path is told in its place.

* `Route.below` — the path of a route below an index.
* `Route.ofPath?_below`, `Route.ofPath?_below_elsewhere` — where such a path leads.
* `Destination.instead?_of_getLast` — other paths are told for those with slashes at the end alone.
* `Destination.ofPath?_below`, `Destination.instead?_below` — below an index there are only routes.
-/

set_option autoImplicit false

namespace FacetedSearch

namespace Http

namespace Route

/-- The path of a route below an index. -/
def below (index name : String) : String := "/api/datasets/" ++ index ++ "/" ++ name

/-- A name that leads to a route. -/
def IsName (index : String) : Prop := index ≠ "" ∧ '/' ∉ index.toList

theorem exists_toList_below (index name : String) :
    ∃ rest, (below index name).toList = '/' :: 'a' :: 'p' :: rest := by
  unfold below
  rw [String.toList_append, String.toList_append, String.toList_append]
  exact ⟨_, rfl⟩

theorem ofPath?_below_eq (index : String) {name : String} (hname : '/' ∉ name.toList) :
    ofPath? (below index name) =
      ofParts? ("api" :: "datasets" ::
        (Text.pieces '/' index.toList).map String.ofList ++ [name]) := by
  have htext : (below index name).toList =
      [] ++ '/' :: ("api".toList ++ '/' :: ("datasets".toList ++ '/' ::
        (index.toList ++ '/' :: name.toList))) := by
    unfold below
    rw [String.toList_append, String.toList_append, String.toList_append, List.append_assoc,
      List.append_assoc]
    rfl
  have hparts : (Text.pieces '/' (below index name).toList).map String.ofList =
      "" :: ("api" :: "datasets" ::
        (Text.pieces '/' index.toList).map String.ofList ++ [name]) := by
    have hapi : Text.pieces '/' "api".toList = ["api".toList] := Text.pieces_of_notMem (by decide)
    have hdatasets : Text.pieces '/' "datasets".toList = ["datasets".toList] :=
      Text.pieces_of_notMem (by decide)
    rw [htext, Text.pieces_append, Text.pieces_append, Text.pieces_append, Text.pieces_append,
      Text.pieces_of_notMem hname, hapi, hdatasets]
    simp only [Text.pieces, List.map_append, List.map_cons, List.map_nil, String.ofList_toList]
    rfl
  unfold ofPath?
  rw [hparts]
  rfl

/-- A name leads to what is asked for. -/
theorem ofPath?_below {index : String} (h : IsName index) {name : String}
    (hname : '/' ∉ name.toList) :
    ofPath? (below index name) = endingIn? index (unbroken name) := by
  rw [ofPath?_below_eq index hname, Text.pieces_of_notMem h.2]
  simp only [List.map_cons, List.map_nil, String.ofList_toList, List.cons_append, List.nil_append]
  exact if_neg h.1

theorem belowIndex?_of_two (index part name : String) (hname : unbroken name ≠ "summary")
    (hnonempty : name ≠ "") :
    belowIndex? index [part, name] =
      if part = "records" then some (.record index name) else none := by
  by_cases hfields : part = "fields"
  · subst hfields
    exact if_neg hname
  · by_cases hrecords : part = "records"
    · subst hrecords
      rw [if_pos rfl]
      exact if_neg hnonempty
    · rw [if_neg hrecords]
      unfold belowIndex?
      split
      · next hparts => cases hparts
      · next hparts =>
        cases hparts
        exact absurd rfl hfields
      · next hparts =>
        cases hparts
        exact absurd rfl hrecords
      · rfl

/-- Anything else leads elsewhere, whatever is asked for. -/
theorem ofPath?_below_elsewhere {index : String} (h : ¬ IsName index) :
    (ofPath? (below index "compile") = none ∧ ofPath? (below index "query") = none) ∨
      ∃ i, ofPath? (below index "compile") = some (.record i "compile") ∧
        ofPath? (below index "query") = some (.record i "query") := by
  rw [ofPath?_below_eq index (by decide), ofPath?_below_eq index (by decide)]
  by_cases hslash : '/' ∈ index.toList
  · obtain ⟨first, second, rest, hpieces⟩ := Text.exists_pieces_of_mem hslash
    rw [hpieces]
    have hparts (name : String) : ofParts? ("api" :: "datasets" ::
        (first :: second :: rest).map String.ofList ++ [name]) =
          if String.ofList first = "" then none
          else belowIndex? (String.ofList first)
            (String.ofList second :: (rest.map String.ofList ++ [name])) := rfl
    rw [hparts, hparts]
    by_cases hempty : String.ofList first = ""
    · rw [if_pos hempty, if_pos hempty]
      exact .inl ⟨rfl, rfl⟩
    · rw [if_neg hempty, if_neg hempty]
      cases rest with
      | nil =>
        rw [List.map_nil, List.nil_append, List.nil_append,
          belowIndex?_of_two _ _ _ (by decide) (by decide),
          belowIndex?_of_two _ _ _ (by decide) (by decide)]
        split
        · exact .inr ⟨_, rfl, rfl⟩
        · exact .inl ⟨rfl, rfl⟩
      | cons third rest =>
        -- with three parts or more below an index there is no route
        cases rest <;> exact .inl ⟨rfl, rfl⟩
  · have hempty : index = "" := by
      by_contra hne
      exact h ⟨hne, hslash⟩
    subst hempty
    exact .inl ⟨rfl, rfl⟩

/-! ## Slashes at the end -/

theorem belowIndex?_append_empty (index : String) (parts : List String) :
    belowIndex? index (parts ++ [""]) = none := by
  match parts with
  | [] => rfl
  | [part] =>
    show belowIndex? index [part, ""] = none
    unfold belowIndex?
    split
    · next h => simp at h
    · next h =>
      cases h
      rfl
    · next h =>
      cases h
      rfl
    · rfl
  | part :: second :: rest =>
    unfold belowIndex?
    split <;> simp_all

/-- Nothing but the root is found under parts of which the last one is empty. -/
theorem ofParts?_append_empty {parts : List String} (h : parts ≠ []) :
    ofParts? (parts ++ [""]) = none := by
  match parts, h with
  | [part], _ => rfl
  | [part, second], _ =>
    show ofParts? [part, second, ""] = none
    unfold ofParts?
    split
    · next h => simp at h
    · next h =>
      cases h
      rfl
    · rfl
  | part :: second :: index :: rest, _ =>
    show ofParts? (part :: second :: index :: (rest ++ [""])) = none
    unfold ofParts?
    split
    · next h => simp at h
    · next h =>
      cases h
      rw [belowIndex?_append_empty]
      exact ite_self _
    · rfl

/-- A path with a slash at its end leads nowhere, unless it is the root. -/
theorem ofPath?_append_slash {path : String} (h : path ≠ "") : ofPath? (path ++ "/") = none := by
  have hpieces : (Text.pieces '/' (path ++ "/").toList).map String.ofList =
      (Text.pieces '/' path.toList).map String.ofList ++ [""] := by
    have hpath : (path ++ "/").toList = path.toList ++ '/' :: [] := String.toList_append
    rw [hpath, Text.pieces_append, List.map_append]
    rfl
  unfold ofPath?
  rw [hpieces]
  obtain ⟨first, rest, hfirst⟩ := List.exists_cons_of_ne_nil (Text.pieces_ne_nil '/' path.toList)
  rw [hfirst, List.map_cons, List.cons_append]
  split
  · next parts hparts =>
    rw [List.cons.injEq] at hparts
    obtain ⟨hempty, rfl⟩ := hparts
    refine ofParts?_append_empty fun hnil => h ?_
    have hjoined : ['/'].intercalate (path.toList.splitOn '/') = path.toList :=
      List.intercalate_splitOn '/'
    rw [← Text.pieces_eq_splitOn, hfirst, List.map_eq_nil_iff.1 hnil] at hjoined
    rw [← String.ofList_toList (s := path), ← hjoined]
    simpa using hempty
  · rfl

end Route

/-! ## Pages -/

namespace Page

theorem path_of_ofPath? {path : String} {page : Page} (h : ofPath? path = some page) :
    page.path = Route.unbroken path := by
  have hpath := List.find?_some h
  exact eq_of_beq hpath

/-- Paths of pages begin with other letters than those below an index. -/
theorem ofPath?_of_api {path : String} {rest : List Char}
    (h : path.toList = '/' :: 'a' :: 'p' :: rest) : ofPath? path = none := by
  have hsecond : (Route.unbroken path).toList[1]? = some 'a' := by
    unfold Route.unbroken
    split
    · rw [String.toList_ofList, h]
      rfl
    · rw [h]
      rfl
  refine Option.eq_none_iff_forall_ne_some.2 fun page hpage => ?_
  rw [← path_of_ofPath? hpage] at hsecond
  cases page <;> simp [Page.path] at hsecond

theorem ofPath?_append_slash (path : String) : ofPath? (path ++ "/") = none := by
  have hlast : (path ++ "/").toList.getLast? = some '/' := by
    rw [String.toList_append]
    exact List.getLast?_concat
  have hunbroken : Route.unbroken (path ++ "/") = path ++ "/" := by
    unfold Route.unbroken
    rw [hlast]
    rfl
  refine Option.eq_none_iff_forall_ne_some.2 fun page hpage => ?_
  rw [← hunbroken, ← path_of_ofPath? hpage] at hlast
  cases page <;> simp [Page.path] at hlast

end Page

namespace Destination

theorem ofPath?_of_no_page {path : String} (h : Page.ofPath? path = none) :
    ofPath? path = (Route.ofPath? path).map route := by
  unfold ofPath?
  rw [h]

/-- No other path is told in place of one without a slash at its end. -/
theorem instead?_of_getLast {path : String} (hne : path ≠ "")
    (h : path.toList.getLast? ≠ some '/') : instead? path = none := by
  have hnone : ofPath? (path ++ "/") = none := by
    rw [ofPath?_of_no_page (Page.ofPath?_append_slash path), Route.ofPath?_append_slash hne]
    rfl
  unfold instead? reslashed
  rw [if_neg h, hnone]
  exact if_neg (by simp)

theorem ofPath?_below (index name : String) :
    ofPath? (Route.below index name) = (Route.ofPath? (Route.below index name)).map route := by
  obtain ⟨rest, hrest⟩ := Route.exists_toList_below index name
  exact ofPath?_of_no_page (Page.ofPath?_of_api hrest)

theorem instead?_below (index : String) {name : String} (hne : name ≠ "")
    (hname : '/' ∉ name.toList) : instead? (Route.below index name) = none := by
  have hlast : (Route.below index name).toList.getLast? = name.toList.getLast? := by
    have hletters : name.toList ≠ [] := fun h => hne (String.toList_eq_nil_iff.1 h)
    have hpath : (Route.below index name).toList =
        ("/api/datasets/" ++ index ++ "/").toList ++ name.toList := String.toList_append
    rw [hpath]
    exact List.getLast?_append_of_ne_nil _ hletters
  refine instead?_of_getLast (fun h => ?_) fun h => ?_
  · obtain ⟨rest, hrest⟩ := Route.exists_toList_below index name
    rw [h] at hrest
    cases hrest
  · rw [hlast] at h
    exact hname (List.mem_of_getLast? h)

end Destination

end Http

end FacetedSearch
