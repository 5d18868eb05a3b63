import FacetedSearch.Proofs.Dataset.Phases
import Mathlib.Data.List.Induction

/-!
# Stale results

Queries are numbered as they start, and while one is under way others can start, return and fail.
The journal tells of every start and of every result that was stored, so what is said here of the
journal is said of every order in which calls nest.

* `Session.Growth` — what one session adds to the journal of another.
* `Dataset.run_grows` — every step makes a session grow.
* `Session.Ran` — what one query adds to the journal, its own entries apart from those of others.
* `Dataset.Reached` — the sessions that turns can lead to.
* `Dataset.query_stores_iff_newest` — a result is stored exactly when no other query started
  meanwhile.
-/

set_option autoImplicit false

namespace FacetedSearch

open SessionM

namespace Entry

/-- The numbers of the queries that were started, in order. -/
def starts (es : List Entry) : List Nat :=
  es.filterMap fun
    | .started generation => some generation
    | _ => none

/-- The results that were stored, in order, each with the number of its query. -/
def stores (es : List Entry) : List (Nat × SearchResult) :=
  es.filterMap fun
    | .stored generation result => some (generation, result)
    | _ => none

theorem starts_append (es fs : List Entry) : starts (es ++ fs) = starts es ++ starts fs :=
  List.filterMap_append

theorem stores_append (es fs : List Entry) : stores (es ++ fs) = stores es ++ stores fs :=
  List.filterMap_append

end Entry

open Entry

namespace Session

/-- What is remembered of the results of queries. -/
def memory (s : Session) : Option SearchResult × Option Int := (s.lastResult, s.recordCount)

/-- What is remembered after some results were stored: the last one and its number of records. -/
def remember (memory : Option SearchResult × Option Int) (stored : List (Nat × SearchResult)) :
    Option SearchResult × Option Int :=
  stored.foldl (fun _ p => (some p.2, some p.2.total)) memory

/-- From one session to another these entries were added to the journal: queries took the next
numbers, and of them some stored their results, none after a newer one. -/
structure Growth (s t : Session) (es : List Entry) : Prop where
  journal : t.journal = s.journal ++ es
  generation : t.generation = s.generation + (starts es).length
  numbered : starts es = List.range' (s.generation + 1) (starts es).length
  recent : ∀ p ∈ stores es, s.generation < p.1 ∧ p.1 ≤ t.generation
  ordered : (stores es).Pairwise fun p q => p.1 < q.1
  remembered : t.memory = remember s.memory (stores es)

/-- Nothing that concerns queries was done. -/
theorem Growth.still {s t : Session} {es : List Entry} (hjournal : t.journal = s.journal ++ es)
    (hgeneration : t.generation = s.generation) (hmemory : t.memory = s.memory)
    (hstarts : starts es = []) (hstores : stores es = []) : Growth s t es where
  journal := hjournal
  generation := by rw [hgeneration, hstarts]; rfl
  numbered := by rw [hstarts]; rfl
  recent := by simp [hstores]
  ordered := by simp [hstores]
  remembered := by rw [hmemory, hstores]; rfl

theorem Growth.refl (s : Session) : Growth s s [] :=
  .still (List.append_nil _).symm rfl rfl rfl rfl

theorem Growth.trans {s t u : Session} {es fs : List Entry} (h : Growth s t es)
    (h' : Growth t u fs) : Growth s u (es ++ fs) where
  journal := by rw [h'.journal, h.journal, List.append_assoc]
  generation := by rw [h'.generation, h.generation, starts_append, List.length_append]; omega
  numbered := by
    have hfs := h'.numbered
    rw [h.generation, Nat.add_right_comm] at hfs
    rw [starts_append, List.length_append, ← List.range'_append_1, ← h.numbered, ← hfs]
  recent := by
    rw [stores_append]
    intro p hp
    have := h.generation
    have := h'.generation
    rcases List.mem_append.1 hp with hp | hp
    · have := h.recent p hp
      omega
    · have := h'.recent p hp
      omega
  ordered := by
    rw [stores_append, List.pairwise_append]
    refine ⟨h.ordered, h'.ordered, fun p hp q hq => ?_⟩
    exact Nat.lt_of_le_of_lt (h.recent p hp).2 (h'.recent q hq).1
  remembered := by
    rw [h'.remembered, h.remembered, stores_append]
    exact List.foldl_append.symm

/-- A query that was started meanwhile can store its result as long as no newer one did. -/
theorem Growth.store {s t : Session} {es : List Entry} (h : Growth s t es) {generation : Nat}
    (hlow : s.generation < generation) (hhigh : generation ≤ t.generation)
    (hnewest : ∀ p ∈ stores es, p.1 < generation) (result : SearchResult) :
    Growth s (t.store generation result) (es ++ [.stored generation result]) where
  journal := by
    rw [← List.append_assoc, ← h.journal]
    rfl
  generation := by
    rw [starts_append]
    exact h.generation.trans (by simp [starts])
  numbered := by
    have hstarts : starts (es ++ [.stored generation result]) = starts es := by
      rw [starts_append]
      exact List.append_nil _
    rw [hstarts]
    exact h.numbered
  recent := by
    rw [stores_append]
    intro p hp
    rcases List.mem_append.1 hp with hp | hp
    · exact h.recent p hp
    · cases List.mem_singleton.1 hp
      exact ⟨hlow, hhigh⟩
  ordered := by
    rw [stores_append, List.pairwise_append]
    refine ⟨h.ordered, List.pairwise_singleton _ _, fun p hp q hq => ?_⟩
    cases List.mem_singleton.1 hq
    exact hnewest p hp
  remembered := by
    rw [stores_append, remember, List.foldl_append]
    rfl

/-- To start a query is to take the next number. -/
theorem Growth.begun (s : Session) (live : LiveQuery) :
    Growth s (s.begun live) [.started (s.generation + 1)] where
  journal := rfl
  generation := rfl
  numbered := rfl
  recent := by simp [stores]
  ordered := List.Pairwise.nil
  remembered := rfl

/-- One session has grown into another. -/
def Grows (s t : Session) : Prop := ∃ es, Growth s t es

/-- A session grows by whatever is done in it, queries apart. -/
theorem grows_law : Session.Law Grows where
  refl s := ⟨[], .refl s⟩
  trans := fun ⟨_, h⟩ ⟨_, h'⟩ => ⟨_, h.trans h'⟩
  live _ _ _ := ⟨[], .still (List.append_nil _).symm rfl rfl rfl rfl⟩
  observers _ _ := ⟨[], .still (List.append_nil _).symm rfl rfl rfl rfl⟩
  agendas _ _ := ⟨[], .still (List.append_nil _).symm rfl rfl rfl rfl⟩
  replies _ _ := ⟨[], .still (List.append_nil _).symm rfl rfl rfl rfl⟩
  called _ _ := ⟨[], .still (List.append_nil _).symm rfl rfl rfl rfl⟩
  noted _ _ _ := ⟨[], .still (List.append_nil _).symm rfl rfl rfl rfl⟩
  fired _ _ _ _ := ⟨_, .still rfl rfl rfl rfl rfl⟩
  delivered _ _ _ _ := ⟨_, .still rfl rfl rfl rfl rfl⟩

/-- From one session to another a query was run.  It took the next number; `during` was journalled
while it was under way, by queries that started later as far as results were stored, and `own` at
its end. -/
structure Ran (s t : Session) (during own : List Entry) : Prop where
  growth : Growth s t (.started (s.generation + 1) :: during ++ own)
  later : ∀ p ∈ stores during, s.generation + 1 < p.1

/-- What a query stores at its end is remembered. -/
theorem Ran.memory_eq {s t : Session} {during : List Entry} {generation : Nat}
    {result : SearchResult} (h : Ran s t during [.stored generation result]) :
    t.memory = (some result, some result.total) := by
  rw [h.growth.remembered, stores_append, remember, List.foldl_append]
  rfl

/-- The numbers are given in order, newer results replace older ones, and what is remembered is the
last result that was stored. -/
structure Orderly (s : Session) : Prop where
  numbered : starts s.journal = List.range' 1 s.generation
  ordered : (stores s.journal).Pairwise fun p q => p.1 < q.1
  latest : s.lastResult = (stores s.journal).getLast?.map Prod.snd
  counted : s.recordCount = s.lastResult.map SearchResult.total

theorem remember_none (stored : List (Nat × SearchResult)) :
    remember (none, none) stored =
      (stored.getLast?.map Prod.snd, (stored.getLast?.map Prod.snd).map SearchResult.total) := by
  induction stored using List.reverseRecOn with
  | nil => rfl
  | append_singleton stored p ih => simp [remember]

/-- What has grown from the start is orderly. -/
theorem Growth.orderly {live : LiveQuery} {autoQuery : Bool} {s : Session}
    (h : Growth (Session.start live autoQuery) s s.journal) : s.Orderly := by
  have hmemory := h.remembered.trans (remember_none (stores s.journal))
  have hlast := congrArg Prod.fst hmemory
  have hcount := congrArg Prod.snd hmemory
  have hgeneration : s.generation = (starts s.journal).length :=
    h.generation.trans (Nat.zero_add _)
  exact ⟨hgeneration ▸ h.numbered, h.ordered, hlast,
    hcount.trans (congrArg (Option.map SearchResult.total) hlast.symm)⟩

end Session

namespace Dataset

open Session

variable {d : Dataset} {inner : Meaning} {updates : Json} {s t : Session}

/-- A query whose search is over has stored nothing yet. -/
theorem ran_of_pursued (hinner : ∀ step, Keeps Grows (inner step))
    (live : LiveQuery) (h : (d.pursue inner live).after (s.begun live) = t) :
    ∃ during, s.Ran t during [] := by
  obtain ⟨during, hgrowth⟩ := keeps_pursue grows_law hinner d live (s.begun live)
  rw [h] at hgrowth
  refine ⟨during, ?_, fun p hp => (hgrowth.recent p hp).1⟩
  rw [List.append_nil]
  exact (Growth.begun s live).trans hgrowth

/-- A query that returns stores its result unless another one was started meanwhile. -/
theorem ran_of_query_ok (hinner : ∀ step, Keeps Grows (inner step))
    {result : SearchResult} (h : d.query inner updates s = .ok result t) :
    ∃ during, s.Ran t during
      (if starts during = [] then [.stored (s.generation + 1) result] else []) := by
  obtain ⟨live, found, -, hpursue, rfl⟩ := query_eq_ok_iff.1 h
  obtain ⟨during, hran⟩ := ran_of_pursued (t := found) hinner live (after_ok hpursue)
  have hgrowth := hran.growth
  rw [List.append_nil] at hgrowth
  have hnewest : starts during = [] ↔ s.generation + 1 = found.generation := by
    rw [hgrowth.generation, ← List.length_eq_zero_iff]
    simp [starts]
  refine ⟨during, ?_⟩
  by_cases hnone : starts during = []
  · rw [if_pos hnone, if_pos (hnewest.1 hnone)]
    have hsame := hnewest.1 hnone
    refine ⟨hgrowth.store (Nat.lt_succ_self _) (Nat.le_of_eq hsame) (fun p hp => ?_) result,
      hran.later⟩
    -- whatever was stored meanwhile belongs to a later query, but no query is later
    have hlater := hran.later p hp
    have hrecent := (hgrowth.recent p hp).2
    omega
  · rw [if_neg hnone, if_neg (hnewest.not.1 hnone)]
    exact hran

/-- A query that fails stores nothing; if its updates were refused, nothing happened at all. -/
theorem ran_of_query_error (hinner : ∀ step, Keeps Grows (inner step))
    {e : Failure} (h : d.query inner updates s = .error e t) :
    (d.updated updates s.live = .error e ∧ t = s) ∨
      (∃ live, d.updated updates s.live = .ok live) ∧ ∃ during, s.Ran t during [] := by
  rcases query_eq_error_iff.1 h with h | ⟨live, hlive, hpursue⟩
  · exact .inl h
  · exact .inr ⟨⟨live, hlive⟩, ran_of_pursued hinner live (after_error hpursue)⟩

theorem query_grows (hinner : ∀ step, Keeps Grows (inner step))
    (updates : Json) : Keeps Grows (d.query inner updates) := by
  intro s
  cases h : d.query inner updates s with
  | ok result t =>
    obtain ⟨during, hran⟩ := ran_of_query_ok hinner h
    rw [after_ok h]
    exact ⟨_, hran.growth⟩
  | error e t =>
    rw [after_error h]
    rcases ran_of_query_error hinner h with ⟨-, rfl⟩ | ⟨-, during, hran⟩
    · exact ⟨[], .refl t⟩
    · exact ⟨_, hran.growth⟩

/-- **Every step makes a session grow**, however deep the steps nest. -/
theorem run_grows (d : Dataset) (depth : Nat) :
    ∀ step, Keeps Grows (d.run depth step) :=
  run_keeps grows_law d (fun _ hinner updates => query_grows hinner updates) depth

/-! ## Whole sessions -/

/-- The sessions that turns can lead to, whatever comes of each turn. -/
inductive Reached (d : Dataset) : Session → Prop where
  | start (live : LiveQuery) (autoQuery : Bool) : Reached d (Session.start live autoQuery)
  | turn {s : Session} (depth : Nat) (t : Turn) : Reached d s → Reached d (d.turn depth s t).after

/-- Every session has grown from its start. -/
theorem Reached.growth (h : d.Reached s) :
    ∃ live autoQuery, Growth (Session.start live autoQuery) s s.journal := by
  induction h with
  | start live autoQuery => exact ⟨live, autoQuery, .refl _⟩
  | @turn s depth t _ ih =>
    obtain ⟨live, autoQuery, hgrowth⟩ := ih
    obtain ⟨es, hes⟩ := d.run_grows depth t.step { s with replies := t.replies }
    have hreplies : Growth s { s with replies := t.replies } [] :=
      .still (List.append_nil _).symm rfl rfl rfl rfl
    rw [turn_after]
    refine ⟨live, autoQuery, ?_⟩
    rw [hes.journal]
    exact hgrowth.trans (hreplies.trans hes)

/-- **A stale result never overwrites a newer one.**  A query that returns stores its result, which
is then remembered, exactly when no other query was started after it.  A query that fails stores
nothing, and one whose updates are refused does not even count as started.  Hence the results stored
in a session are ever newer. -/
theorem query_stores_iff_newest (d : Dataset) :
    (∀ depth updates s result t, d.query (d.run depth) updates s = .ok result t →
      ∃ during, s.Ran t during
          (if starts during = [] then [.stored (s.generation + 1) result] else []) ∧
        (starts during = [] → t.lastResult = some result ∧ t.recordCount = some result.total)) ∧
    (∀ depth updates s e t, d.query (d.run depth) updates s = .error e t →
      (d.updated updates s.live = .error e ∧ t = s) ∨
        (∃ live, d.updated updates s.live = .ok live) ∧ ∃ during, s.Ran t during []) ∧
    ∀ s, d.Reached s → s.Orderly := by
  refine ⟨fun depth updates s result t h => ?_,
    fun depth updates s e t h => ran_of_query_error (d.run_grows depth) h, fun s h => ?_⟩
  · obtain ⟨during, hran⟩ := ran_of_query_ok (d.run_grows depth) h
    refine ⟨during, hran, fun hnone => ?_⟩
    rw [if_pos hnone] at hran
    exact Prod.mk.inj hran.memory_eq
  · obtain ⟨live, autoQuery, hgrowth⟩ := h.growth
    exact hgrowth.orderly

/-- A query during which another one is run, one whose updates are refused, and a turn. -/
theorem query_stores_iff_newest_nested :
    let d : Dataset := ⟨"products", .standard⟩
    let start := Session.start (.ofQuery (Query.blank 10)) false
    let replies : List Reply := [⟨some [.query .null], none⟩]
    let s := { start with replies }
    (∃ result t, d.query (d.run 1) .null s = .ok result t ∧ ∃ during, s.Ran t during
        (if starts during = [] then [.stored (s.generation + 1) result] else []) ∧
      (starts during = [] → t.lastResult = some result ∧ t.recordCount = some result.total)) ∧
    (∃ e t, d.query (d.run 1) (.obj [("size", .str "many")]) s = .error e t ∧
      ((d.updated (.obj [("size", .str "many")]) s.live = .error e ∧ t = s) ∨
        (∃ live, d.updated (.obj [("size", .str "many")]) s.live = .ok live) ∧
          ∃ during, s.Ran t during [])) ∧
    d.Reached (d.turn 2 start ⟨.query .null, replies⟩).after ∧
    (d.turn 2 start ⟨.query .null, replies⟩).after.Orderly := by
  intro d start replies s
  have hnested : query ⟨"products", .standard⟩ (run ⟨"products", .standard⟩ 1) .null
      { Session.start (.ofQuery (Query.blank 10)) false with
        replies := [⟨some [.query .null], none⟩] } = .ok _ _ := rfl
  have hupdated : updated ⟨"products", .standard⟩ (.obj [("size", .str "many")])
      (.ofQuery (Query.blank 10)) = .error _ := rfl
  have hrefused : d.query (d.run 1) (.obj [("size", .str "many")]) s = .error _ s :=
    query_eq_error_iff.2 (.inl ⟨hupdated, rfl⟩)
  have hreached : d.Reached (d.turn 2 start ⟨.query .null, replies⟩).after :=
    .turn 2 _ (.start _ _)
  refine ⟨⟨_, _, hnested, ?_⟩, ⟨_, _, hrefused, ?_⟩, hreached, ?_⟩
  · exact (query_stores_iff_newest d).1 1 .null s _ _ hnested
  · exact (query_stores_iff_newest d).2.1 1 _ s _ _ hrefused
  · exact (query_stores_iff_newest d).2.2 _ hreached

end Dataset

end FacetedSearch
