import EntityForge.Files.Path

/-!
# Paths below a directory

A path is the list of its segments, so putting a slash between two texts puts their segments one
after the other (`Path.segments_append`), and where a path leads without links is a fold over its
names. A path that stays inside a directory adds its own names to the location of the directory
(`Path.location_join`): the segments that lead nowhere do not count, and no segment leads up.

The directories that enclose the last name of such a path are described by what is left behind them
(`Path.exists_of_mem_enclosing`, `Path.join_split`): either they are on the way to the base, or they
lie below it and some name of the path is still to come.
-/

set_option autoImplicit false

namespace EntityForge

namespace Text

variable {separator : Char}

theorem pieces_append (a b : List Char) :
    pieces separator (a ++ separator :: b) = pieces separator a ++ pieces separator b := by
  induction a with
  | nil => simp [pieces]
  | cons c a ih =>
    by_cases hc : c = separator
    · simp [pieces, hc, ih]
    · cases hp : pieces separator a with
      | nil => exact absurd hp (pieces_ne_nil separator a)
      | cons piece rest => simp [pieces, hc, ih, hp]

theorem notMem_of_mem_pieces {piece cs : List Char} (h : piece ∈ pieces separator cs) :
    separator ∉ piece := by
  induction cs generalizing piece with
  | nil =>
    rw [pieces, List.mem_singleton] at h
    simp [h]
  | cons c cs ih =>
    unfold pieces at h
    split at h
    · rcases List.mem_cons.1 h with rfl | h
      · exact List.not_mem_nil
      · exact ih h
    · rename_i hc
      split at h
      · rw [List.mem_singleton] at h
        simp [h, Ne.symm hc]
      · rename_i first rest hrest
        rw [hrest] at ih
        rcases List.mem_cons.1 h with rfl | h
        · simp [Ne.symm hc, ih List.mem_cons_self]
        · exact ih (List.mem_cons_of_mem first h)

theorem pieces_of_notMem {cs : List Char} (h : separator ∉ cs) : pieces separator cs = [cs] := by
  induction cs with
  | nil => rfl
  | cons c cs ih =>
    rw [List.mem_cons, not_or] at h
    simp [pieces, Ne.symm h.1, ih h.2]

end Text

namespace Files.Path

variable {here : Location} {base path text : String}

/-! ## Segments -/

theorem slash_toList : "/".toList = ['/'] := rfl

theorem segments_append (a b : String) : segments (a ++ "/" ++ b) = segments a ++ segments b := by
  have hchars : (a ++ "/" ++ b).toList = a.toList ++ '/' :: b.toList := by
    simp [String.toList_append, slash_toList]
  rw [segments, hchars, Text.pieces_append, List.map_append]
  rfl

theorem segments_of_notMem (h : '/' ∉ path.toList) : segments path = [path] := by
  simp [segments, Text.pieces_of_notMem h]

theorem slash_notMem_of_mem_segments {segment : String} (h : segment ∈ segments path) :
    '/' ∉ segment.toList := by
  obtain ⟨piece, hpiece, rfl⟩ := List.mem_map.1 h
  rw [String.toList_ofList]
  exact Text.notMem_of_mem_pieces hpiece

theorem intercalate_append {front back : List String} (hfront : front ≠ []) (hback : back ≠ []) :
    "/".intercalate (front ++ back)
      = "/".intercalate front ++ "/" ++ "/".intercalate back := by
  induction front with
  | nil => exact absurd rfl hfront
  | cons first rest ih =>
    cases rest with
    | nil =>
      obtain ⟨next, later, rfl⟩ := List.exists_cons_of_ne_nil hback
      simp [String.intercalate_cons_cons]
    | cons next later =>
      have hrest := ih (List.cons_ne_nil next later)
      rw [List.cons_append] at hrest
      rw [List.cons_append, List.cons_append, String.intercalate_cons_cons, hrest,
        String.intercalate_cons_cons]
      simp [String.append_assoc]

/-- Segments with slashes between them are the segments of the text. -/
theorem segments_intercalate {names : List String} (hne : names ≠ [])
    (h : ∀ name ∈ names, '/' ∉ name.toList) : segments ("/".intercalate names) = names := by
  induction names with
  | nil => exact absurd rfl hne
  | cons first rest ih =>
    have hfirst := segments_of_notMem (h first List.mem_cons_self)
    cases rest with
    | nil => simpa using hfirst
    | cons next later =>
      have hrest := ih (List.cons_ne_nil next later) fun name hmem =>
        h name (List.mem_cons_of_mem first hmem)
      rw [String.intercalate_cons_cons, segments_append, hfirst, hrest]
      rfl

theorem intercalate_segments (path : String) : "/".intercalate (segments path) = path := by
  have hjoined : ∀ names : List (List Char),
      ['/'].intercalate names = Text.joined '/' names := by
    intro names
    induction names with
    | nil => rfl
    | cons first rest ih =>
      cases rest with
      | nil => simp [Text.joined]
      | cons next later => rw [List.intercalate_cons_cons, ih]; simp [Text.joined]
  apply String.toList_inj.1
  rw [String.toList_intercalate, slash_toList, hjoined, segments, List.map_map]
  simp [Function.comp_def, Text.joined_pieces]

/-! ## Where paths lead -/

/-- The directory from which a path is taken. -/
def start (here : Location) (path : String) : Location := if isAbsolute path then [] else here

theorem location_eq (here : Location) (path : String) :
    location here path = (names path).foldl step (start here path) := rfl

/-- The segments of a path that lead somewhere. -/
def normal (path : String) : List String := (segments path).filter fun segment => !isIdle segment

theorem isAbsolute_append (h : base ≠ "") : isAbsolute (base ++ text) = isAbsolute base := by
  have hne : base.toList ≠ [] := by simpa using h
  obtain ⟨c, cs, hcs⟩ := List.exists_cons_of_ne_nil hne
  simp [isAbsolute, String.toList_append, hcs]

theorem start_append (h : base ≠ "") : start here (base ++ text) = start here base := by
  rw [start, isAbsolute_append h, start]

/-- Names none of which leads up are added to the location from which they are taken. -/
theorem foldl_step_filter {segments : List String} (h : ".." ∉ segments) : ∀ here : Location,
    (segments.filter (· ≠ "")).foldl step here
      = here ++ segments.filter fun segment => !isIdle segment := by
  induction segments with
  | nil => simp
  | cons segment rest ih =>
    intro here
    rw [List.mem_cons, not_or] at h
    have hrest := ih h.2
    have hup : segment ≠ ".." := Ne.symm h.1
    by_cases hempty : segment = ""
    · simpa [hempty, isIdle] using hrest here
    · by_cases hdot : segment = "."
      · simpa [hdot, isIdle, step] using hrest here
      · simpa [hempty, hdot, hup, isIdle, step] using hrest (here ++ [segment])

theorem staysInside_iff :
    staysInside path = true ↔ path ≠ "" ∧ isAbsolute path = false ∧ ".." ∉ segments path := by
  simp [staysInside, and_assoc]

/-- The segments of a path below a base are those of the base, but for a slash at its end, and then
those of the path. -/
theorem exists_segments_join (here : Location) (base : String) (h : isAbsolute path = false) :
    ∃ front, segments (join base path) = front ++ segments path ∧
      front.filter (· ≠ "") = names base ∧ start here (join base path) = start here base := by
  unfold join
  rw [h, if_neg Bool.false_ne_true]
  by_cases hempty : base = ""
  · subst hempty
    refine ⟨[], by simp, rfl, ?_⟩
    rw [if_pos (.inl rfl), String.empty_append, start, h]
    rfl
  by_cases hslash : endsWithSlash base = true
  · -- the slash is at the end of the base already
    rw [if_pos (.inr hslash)]
    have hlast : base.toList.getLast? = some '/' := by simpa [endsWithSlash] using hslash
    obtain ⟨chars, hchars⟩ := List.getLast?_eq_some_iff.1 hlast
    have hbase : base = String.ofList chars ++ "/" := by
      apply String.toList_inj.1
      simp [String.toList_append, hchars, slash_toList]
    refine ⟨segments (String.ofList chars), ?_, ?_, start_append hempty⟩
    · rw [hbase, segments_append]
    · have hnames := segments_append (String.ofList chars) ""
      rw [String.append_empty, ← hbase] at hnames
      rw [names, hnames, List.filter_append]
      have hempty : segments "" = [""] := segments_of_notMem (by simp)
      simp [hempty]
  · rw [if_neg (by simp [hempty, hslash]), String.append_assoc]
    refine ⟨segments base, ?_, rfl, start_append hempty⟩
    rw [← String.append_assoc, segments_append]

/-- A path that stays inside a base leads to its own names below the location of the base. -/
theorem location_join (h : staysInside path = true) :
    location here (join base path) = location here base ++ normal path := by
  obtain ⟨-, habsolute, hup⟩ := staysInside_iff.1 h
  obtain ⟨front, hsegments, hfront, hstart⟩ := exists_segments_join here base habsolute
  rw [location_eq, location_eq, names, hsegments, List.filter_append, hfront, List.foldl_append,
    hstart, foldl_step_filter hup]
  rfl

/-! ## The directories that enclose the last name -/

theorem mem_beginnings {reversed : List String} (h : text ∈ beginnings reversed) :
    ∃ back front, reversed = back ++ front ∧ front ≠ [] ∧ text = unsplit front := by
  induction reversed with
  | nil => simp [beginnings] at h
  | cons segment before ih =>
    have hlater : text ∈ beginnings before → ∃ back front, segment :: before = back ++ front ∧
        front ≠ [] ∧ text = unsplit front := by
      intro hmem
      obtain ⟨back, front, rfl, hne, htext⟩ := ih hmem
      exact ⟨segment :: back, front, rfl, hne, htext⟩
    unfold beginnings at h
    split at h
    · exact hlater h
    · rcases List.mem_cons.1 h with rfl | h
      · exact ⟨[], segment :: before, rfl, by simp, rfl⟩
      · exact hlater h

/-- Trimming takes segments that lead nowhere, up to one that does not. -/
theorem trimEnd_eq_cons {reversed rest : List String} {last : String}
    (h : trimEnd reversed = last :: rest) :
    isIdle last = false ∧ ∃ idle, reversed = idle ++ last :: rest := by
  constructor
  · have hhead := List.head?_dropWhile_not isIdle reversed
    rw [← trimEnd, h] at hhead
    simpa using hhead
  · have hwhole := List.takeWhile_append_dropWhile (p := isIdle) (l := reversed)
    rw [← trimEnd, h] at hwhole
    exact ⟨_, hwhole.symm⟩

/-- What encloses the last name of a path is a part of it in front of a slash, and some name is left
behind that slash. -/
theorem exists_of_mem_enclosing (h : text ∈ enclosing path) :
    ∃ rest, path = text ++ "/" ++ rest ∧ ∃ segment ∈ segments rest, isIdle segment = false := by
  obtain ⟨back, front, hdrop, hfront, rfl⟩ := mem_beginnings h
  obtain ⟨last, htrim⟩ : ∃ last, trimEnd (segments path).reverse = last :: (back ++ front) := by
    cases htrim : trimEnd (segments path).reverse with
    | nil =>
      rw [htrim] at hdrop
      simp [hfront] at hdrop
    | cons last rest =>
      rw [htrim, List.drop_one, List.tail_cons] at hdrop
      exact ⟨last, by rw [hdrop]⟩
  obtain ⟨hlast, idle, hreversed⟩ := trimEnd_eq_cons htrim
  have hsegments : segments path = front.reverse ++ (idle ++ last :: back).reverse := by
    rw [← List.reverse_reverse (segments path), hreversed]
    simp
  -- the last name is among the segments behind the part in front
  generalize hbehind : (idle ++ last :: back).reverse = behind at hsegments
  have hmem : last ∈ behind := by simp [← hbehind]
  have hne : behind ≠ [] := List.ne_nil_of_mem hmem
  have hclean : ∀ segment ∈ behind, '/' ∉ segment.toList := fun segment hsegment =>
    slash_notMem_of_mem_segments (show segment ∈ segments path by rw [hsegments]; simp [hsegment])
  refine ⟨"/".intercalate behind, ?_, last, ?_, hlast⟩
  · rw [unsplit, ← intercalate_append (by simpa using hfront) hne, ← hsegments,
      intercalate_segments]
  · rw [segments_intercalate hne hclean]
    exact hmem

/-- A part of a path below a base, in front of a slash, is on the way to the base, or it is the base
with names of the path, of which what is behind the slash is left. -/
theorem join_split {rest : String} (here : Location) (h : staysInside path = true)
    (htext : text ≠ "") (hsplit : join base path = text ++ "/" ++ rest) :
    start here text = start here base ∧
    ((∃ more, names base = names text ++ more) ∨
      ∃ inner, location here text = location here base ++ inner ∧
        normal path = inner ++ normal rest) := by
  obtain ⟨-, habsolute, hup⟩ := staysInside_iff.1 h
  obtain ⟨front, hsegments, hfront, hstart⟩ := exists_segments_join here base habsolute
  have hsame : start here text = start here base := by
    rw [← hstart, hsplit, String.append_assoc, start_append htext]
  refine ⟨hsame, ?_⟩
  rw [hsplit, segments_append] at hsegments
  rcases List.append_eq_append_iff.1 hsegments with ⟨middle, hmiddle, -⟩ | ⟨middle, hmiddle, hrest⟩
  · refine .inl ⟨middle.filter (· ≠ ""), ?_⟩
    rw [← hfront, hmiddle, List.filter_append]
    rfl
  · refine .inr ⟨middle.filter fun segment => !isIdle segment, ?_, ?_⟩
    · have hmiddleUp : ".." ∉ middle := fun hmem => hup (by rw [hrest]; simp [hmem])
      rw [location_eq, hsame, names, hmiddle, List.filter_append, hfront, List.foldl_append,
        foldl_step_filter hmiddleUp]
      rfl
    · rw [normal, hrest, List.filter_append]
      rfl

end Files.Path

end EntityForge
