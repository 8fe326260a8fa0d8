import Courier.Proofs.Cut
import Courier.Proofs.Url.Percent

/-! Paths of the web.

    The segments of a path that was read are encoded, and none of them is a dot segment (`read_settled`).
    Such a path is read as it stands (`SettledPath.read`). -/

namespace Courier.Url

/-- A segment that is met as it stands. -/
structure SettledSegment (cs : List Char) : Prop where
  settled : Settled pathSet cs
  whole : '/' ∉ cs ∧ '\\' ∉ cs
  notDot : isDot (String.ofList cs) = false
  notDoubleDot : isDoubleDot (String.ofList cs) = false

/-- A slash, and segments that are met as they stand. -/
def SettledPath (cs : List Char) : Prop := cs.head? = some '/' ∧ ∀ s ∈ cs.splitOn '/', SettledSegment s

theorem SettledSegment.nil : SettledSegment [] := ⟨nofun, by simp, by decide +kernel, by decide +kernel⟩

/-! ### What is read is settled -/

namespace Trail

theorem meet_web (segment : List Char) (t : Trail) : t.meet .web segment =
    let text := percent pathSet (visible segment)
    if isDoubleDot text then (t.leave, none) else if isDot text then (t, none) else (t, some text) := rfl

theorem text_web (t : Trail) : t.text .web = String.intercalate "/" t.done.reverse := rfl

/-- The path began with a slash, and all its segments are settled. -/
def IsSettled (t : Trail) : Prop := t.done.getLast? = some "" ∧ ∀ s ∈ t.done, SettledSegment s.toList

theorem root_isSettled : root.IsSettled := by
  refine ⟨rfl, fun s hs => ?_⟩
  rw [List.mem_singleton.mp hs]
  exact .nil

theorem IsSettled.push {t : Trail} (h : t.IsSettled) {s : String} (hs : SettledSegment s.toList) :
    IsSettled { t with done := s :: t.done } := by
  refine ⟨?_, fun s' hs' => ?_⟩
  · rw [List.getLast?_cons, h.1]
    rfl
  · rcases List.mem_cons.mp hs' with rfl | hmem
    · exact hs
    · exact h.2 s' hmem

theorem IsSettled.leave {t : Trail} (h : t.IsSettled) : t.leave.IsSettled := by
  rw [Trail.leave]
  split
  · next last more rest hdone =>
    split
    · exact h
    · refine ⟨?_, fun s hs => h.2 s (hdone ▸ .tail _ hs)⟩
      have hlast := h.1
      rwa [hdone, List.getLast?_cons_cons] at hlast
  · exact h

/-- The segment is one of its own if it was not resolved. -/
theorem percent_settledSegment {segment : List Char} (hwhole : '/' ∉ segment ∧ '\\' ∉ segment)
    (hdouble : isDoubleDot (percent pathSet (visible segment)) = false)
    (hdot : isDot (percent pathSet (visible segment)) = false) :
    SettledSegment (percent pathSet (visible segment)).toList := by
  have hsigns : '/' ∉ percentSigns ∧ '\\' ∉ percentSigns := by decide
  have hfrom : ∀ c ∈ (percent pathSet (visible segment)).toList, c ∈ percentSigns ∨ c ∈ segment := fun c hc =>
    (percent_mem hc).imp_right fun hmem => (List.mem_filter.mp hmem).1
  refine ⟨percent_settled (List.all_iff_forall_prop.mp (by decide)) _, ⟨fun hc => ?_, fun hc => ?_⟩, ?_, ?_⟩
  · exact (hfrom _ hc).elim hsigns.1 hwhole.1
  · exact (hfrom _ hc).elim hsigns.2 hwhole.2
  · rwa [String.ofList_toList]
  · rwa [String.ofList_toList]

/-- What a segment does to a settled path. -/
theorem meet_settled {t : Trail} (ht : t.IsSettled) {segment : List Char} (hwhole : '/' ∉ segment ∧ '\\' ∉ segment) :
    (t.meet .web segment).1.IsSettled ∧ ∀ s, (t.meet .web segment).2 = some s → SettledSegment s.toList := by
  rw [meet_web]
  cases hdouble : isDoubleDot (percent pathSet (visible segment)) with
  | true => exact ⟨by simpa [hdouble] using ht.leave, by simp [hdouble]⟩
  | false =>
    cases hdot : isDot (percent pathSet (visible segment)) with
    | true => exact ⟨by simpa [hdouble, hdot] using ht, by simp [hdouble, hdot]⟩
    | false =>
      refine ⟨by simpa [hdouble, hdot] using ht, fun s hs => ?_⟩
      simp only [hdouble, hdot, Bool.false_eq_true, if_false, Option.some.injEq] at hs
      exact hs ▸ percent_settledSegment hwhole hdouble hdot

theorem meetAll_settled : ∀ (segments : List (List Char)) (t : Trail), t.IsSettled →
    (∀ s ∈ segments, '/' ∉ s ∧ '\\' ∉ s) → (segments = [] → t.done.length ≠ 1) →
    (t.meetAll .web segments).IsSettled ∧ (t.meetAll .web segments).done.length ≠ 1
  | [], _, ht, _, hlonger => ⟨ht, hlonger rfl⟩
  | segment :: more, t, ht, hwhole, _ => by
    obtain ⟨hafter, hown⟩ := meet_settled ht (hwhole segment List.mem_cons_self)
    have hmore : ∀ s ∈ more, '/' ∉ s ∧ '\\' ∉ s := fun s hs => hwhole s (.tail _ hs)
    rw [meetAll]
    revert hafter hown
    rcases t.meet .web segment with ⟨t', own⟩
    intro hafter hown
    have hne : t'.done ≠ [] := fun hnil => by simpa [hnil] using hafter.1
    cases own with
    | some s => exact meetAll_settled more _ (hafter.push (hown s rfl)) hmore fun _ => by simpa using hne
    | none => cases more with
      | nil => exact ⟨hafter.push .nil, by simpa using hne⟩
      | cons _ _ => exact meetAll_settled _ t' hafter hmore nofun

end Trail

theorem cutSegments_whole (cs : List Char) : ∀ s ∈ cutSegments .web cs, '/' ∉ s ∧ '\\' ∉ s := by
  intro s hs
  refine ⟨fun hc => (mem_of_splitOn hs _ hc).2 rfl, fun hc => ?_⟩
  obtain ⟨c, -, hmap⟩ := List.mem_map.mp (mem_of_splitOn hs _ hc).1
  split at hmap
  · exact absurd hmap (by decide)
  · next hslash =>
    rw [hmap] at hslash
    exact hslash rfl

theorem behindAuthority_web (cs : List Char) :
    Trail.behindAuthority .web cs = Trail.root.read .web ((behindSlash? .web cs).getD cs) := rfl

/-- A path that was read. -/
theorem read_settled (cs : List Char) : SettledPath ((Trail.behindAuthority .web cs).text .web).toList := by
  rw [behindAuthority_web, Trail.read]
  generalize (behindSlash? .web cs).getD cs = cs
  obtain ⟨⟨hfirst, hsettled⟩, hlonger⟩ := Trail.meetAll_settled (cutSegments .web cs) .root Trail.root_isSettled
    (cutSegments_whole cs) fun hnil => absurd hnil (List.splitOn_ne_nil _ _)
  rw [Trail.text_web]
  generalize (Trail.root.meetAll .web (cutSegments .web cs)).done = done at hfirst hsettled hlonger
  obtain ⟨segments, rfl⟩ := List.getLast?_eq_some_iff.mp hfirst
  have hmore : segments.reverse ≠ [] := by simpa using hlonger
  have hcut : (String.intercalate "/" (segments ++ [""]).reverse).toList.splitOn '/'
      = (segments ++ [""]).reverse.map String.toList := by
    rw [String.toList_intercalate]
    refine List.splitOn_intercalate '/' (fun s hs => ?_) (by simp)
    obtain ⟨t, ht, rfl⟩ := List.mem_map.mp hs
    exact (hsettled t (List.mem_reverse.mp ht)).whole.1
  refine ⟨?_, fun s hs => ?_⟩
  · simp only [List.reverse_append, List.reverse_singleton, List.singleton_append]
    rw [String.intercalate_cons_of_ne_nil hmore]
    simp
  · rw [hcut] at hs
    obtain ⟨t, ht, rfl⟩ := List.mem_map.mp hs
    exact hsettled t (List.mem_reverse.mp ht)

/-! ### What is settled is read as it stands -/

theorem Trail.meetAll_eq : ∀ (segments : List (List Char)) (t : Trail), (∀ s ∈ segments, SettledSegment s) →
    t.meetAll .web segments = { t with done := (segments.map String.ofList).reverse ++ t.done }
  | [], _, _ => rfl
  | s :: more, t, hs => by
    obtain ⟨hsettled, -, hdot, hdouble⟩ := hs s List.mem_cons_self
    have hown : t.meet .web s = (t, some (String.ofList s)) := by
      rw [meet_web, hsettled.visible, hsettled.percent]
      simp [hdot, hdouble]
    rw [meetAll, hown]
    refine (meetAll_eq more _ fun s' hs' => hs s' (.tail _ hs')).trans ?_
    simp

theorem SettledPath.noBackslash {cs : List Char} (h : SettledPath cs) : '\\' ∉ cs := by
  intro hc
  rcases splitOn_of_mem (a := '/') _ hc with hslash | ⟨s, hs, hmem⟩
  · exact absurd hslash (by decide)
  · exact (h.2 s hs).whole.2 hmem

theorem cutSegments_eq {cs : List Char} (h : '\\' ∉ cs) : cutSegments .web cs = cs.splitOn '/' := by
  have hstay : cs.map (fun c => if isSlash .web c then '/' else c) = cs := by
    refine (List.map_congr_left fun c hc => ?_).trans (List.map_id cs)
    split
    · next hslash =>
      simp only [isSlash, Family.isSpecial, Bool.and_true, Bool.or_eq_true, beq_iff_eq] at hslash
      rcases hslash with rfl | rfl
      · rfl
      · exact absurd hc h
    · rfl
  rw [cutSegments, hstay]

theorem SettledPath.read {cs : List Char} (h : SettledPath cs) :
    (Trail.behindAuthority .web cs).text .web = String.ofList cs := by
  have hclear := h.noBackslash
  obtain ⟨hfirst, hsegments⟩ := h
  obtain ⟨rest, rfl⟩ : ∃ rest, cs = '/' :: rest := by
    cases cs with
    | nil => cases hfirst
    | cons c rest => exact ⟨rest, by rw [Option.some.inj hfirst]⟩
  have hslash : behindSlash? .web ('/' :: rest) = some rest := rfl
  have hcut : ('/' :: rest).splitOn '/' = [] :: rest.splitOn '/' := List.splitOn_append_cons_self [] rest
  rw [hcut] at hsegments
  rw [behindAuthority_web, hslash, Option.getD_some, Trail.read, cutSegments_eq fun hc => hclear (.tail _ hc),
    Trail.meetAll_eq _ _ fun s hs => hsegments s (.tail _ hs), Trail.text_web, ← String.toList_inj]
  have hback : ['/'].intercalate (rest.splitOn '/') = rest := List.intercalate_splitOn '/'
  simp [Trail.root, String.toList_intercalate, List.intercalate_cons_of_ne_nil, Function.comp_def, hback]

end Courier.Url
