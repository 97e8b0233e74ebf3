import LinkDefinitions.Parser.Feed
import LinkDefinitions.Proofs.Scan

/-!
# The moves of a parser

`Parser.Move p t q u` lists what one step can do: from `p` with the rest `t` of a line unread to `q`
with `u` unread. Each constructor gives the shape of `t` and of `q` together, so that the text read
can be put together again from the moves; `step_eq_some_iff` says that the steps that match are
exactly the moves.

`Parser.Reading line p t q` is the way through the rest of a line, move after move, which ends at
the end of the line or where no move is possible.
-/

namespace LinkDefinitions

namespace Parser

variable {p q r : Parser} {line t u raw label destination : Text} {closing : Char}

/-! ### What each stage reads -/

theorem openLabel_eq_some_iff :
    p.openLabel t = some (q, u) ↔
      ∃ b, Blank b ∧ b ++ '[' :: u = t ∧ q = p.goto (.label (markAtEnd u)) := by
  constructor
  · intro h
    unfold openLabel at h
    split at h
    · next rest eq =>
      obtain ⟨rfl, rfl⟩ := Prod.mk.inj (Option.some.inj h)
      obtain ⟨-, b, blank, whole⟩ := skipBlanks_eq_iff.1 eq
      exact ⟨b, blank, whole, rfl⟩
    · contradiction
  · rintro ⟨b, blank, rfl, rfl⟩
    have skip : skipBlanks (b ++ '[' :: u) = '[' :: u :=
      skipBlanks_eq_iff.2 ⟨solid_cons_iff.2 (by decide), b, blank, rfl⟩
    rw [openLabel, skip]
    rfl

theorem readLabel_eq_some_iff :
    p.readLabel raw t = some (q, u) ↔
      (Clear Scan.isBracket t ∧ u = [] ∧ q = p.goto (.label (raw ++ t ++ [continuationMark]))) ∨
      ∃ body b, Encloses Scan.isBracket body ']' ∧ Blank b ∧ Solid u ∧
        body ++ ']' :: ':' :: (b ++ u) = t ∧
        (raw ++ body).length ≤ p.labelLimit ∧ Label.key (raw ++ body) ≠ [] ∧
        q = p.goto (.destination (Label.key (raw ++ body))) := by
  constructor
  · intro h
    unfold readLabel at h
    split at h
    · contradiction
    · next body eq =>
      obtain ⟨rfl, rfl⟩ := Prod.mk.inj (Option.some.inj h)
      obtain ⟨whole, ⟨-, clear⟩ | ⟨s, nil, -⟩⟩ := Scan.label_eq_some_iff.1 eq
      · rw [List.append_nil] at whole
        subst whole
        exact .inl ⟨clear, rfl, rfl⟩
      · cases nil
    · next body c rest eq =>
      split at h
      · contradiction
      · next fits =>
        obtain ⟨rfl, rfl⟩ := Prod.mk.inj (Option.some.inj h)
        obtain ⟨whole, ⟨nil, -⟩ | ⟨s, closed, encloses⟩⟩ := Scan.label_eq_some_iff.1 eq
        · cases nil
        · obtain ⟨rfl, -⟩ := List.cons.inj closed
          obtain ⟨solid, b, blank, split⟩ := skipBlanks_eq_iff.1 (rfl : skipBlanks rest = _)
          obtain ⟨short, key⟩ := not_or.1 fits
          exact .inr ⟨body, b, encloses, blank, solid, by rw [split, whole], Nat.not_lt.1 short,
            key, rfl⟩
    · contradiction
  · rintro (⟨clear, rfl, rfl⟩ | ⟨body, b, encloses, blank, solid, rfl, short, key, rfl⟩)
    · have scan := Scan.label_eq_some_iff.2 ⟨List.append_nil t, .inl ⟨rfl, clear⟩⟩
      rw [readLabel, scan]
    · have scan : Scan.label (body ++ ']' :: ':' :: (b ++ u)) =
          some (body, ']' :: ':' :: (b ++ u)) :=
        Scan.label_eq_some_iff.2 ⟨rfl, .inr ⟨_, rfl, encloses⟩⟩
      have fits : ¬ (p.labelLimit < (raw ++ body).length ∨ Label.key (raw ++ body) = []) :=
        not_or.2 ⟨Nat.not_lt.2 short, key⟩
      rw [readLabel, scan]
      simp only [if_neg fits, skipBlanks_append blank]
      rw [solid]

theorem readDestination_eq_some_iff :
    p.readDestination label t = some (q, u) ↔
      (∃ b w v trail, Blank b ∧ Scan.rawDestination w = some (v, []) ∧ Blank trail ∧
        b ++ (w ++ trail) = t ∧ u = [] ∧
        q = { p with
          stage := .startTitle label v, pending := some ⟨label, v, none⟩, remaining := [] }) ∨
      ∃ b w v space, Blank b ∧ Scan.rawDestination w = some (v, []) ∧ Blank space ∧ space ≠ [] ∧
        Solid u ∧ u ≠ [] ∧ b ++ (w ++ (space ++ u)) = t ∧ q = p.goto (.startTitle label v) := by
  constructor
  · intro h
    unfold readDestination at h
    split at h
    · contradiction
    · next v rest eq =>
      obtain ⟨-, b, blank, whole⟩ := skipBlanks_eq_iff.1 (rfl : skipBlanks t = _)
      obtain ⟨w, split, destination⟩ := Scan.rawDestination_self eq
      obtain ⟨solid, space, space_blank, after⟩ :=
        skipBlanks_eq_iff.1 (rfl : skipBlanks rest = _)
      dsimp only at h
      split at h
      · next ends =>
        obtain ⟨rfl, rfl⟩ := Prod.mk.inj (Option.some.inj h)
        exact .inl ⟨b, w, v, rest, blank, destination, skipBlanks_eq_nil_iff.1 ends,
          by rw [split, whole], rfl, rfl⟩
      · next goes_on =>
        split at h
        · contradiction
        · next apart =>
          obtain ⟨rfl, rfl⟩ := Prod.mk.inj (Option.some.inj h)
          refine .inr ⟨b, w, v, space, blank, destination, space_blank, ?_, solid, goes_on,
            by rw [after, split, whole], rfl⟩
          rintro rfl
          exact apart after
  · rintro (⟨b, w, v, trail, blank, destination, trail_blank, rfl, rfl, rfl⟩ |
      ⟨b, w, v, space, blank, destination, space_blank, space_ne, solid, u_ne, rfl, rfl⟩)
    · have scan : Scan.rawDestination (skipBlanks (b ++ (w ++ trail))) = some (v, trail) := by
        have follows : ∀ c ∈ trail.head?, isBlank c = true := fun c head =>
          trail_blank.isBlank_of_mem (List.mem_of_mem_head? head)
        have scan := Scan.rawDestination_append destination follows
        rw [skipBlanks_append blank, Scan.solid_of_rawDestination scan, scan]
      rw [readDestination, scan]
      exact if_pos (skipBlanks_eq_nil_iff.2 trail_blank)
    · have scan : Scan.rawDestination (skipBlanks (b ++ (w ++ (space ++ u)))) =
          some (v, space ++ u) := by
        have follows : ∀ c ∈ (space ++ u).head?, isBlank c = true := by
          intro c head
          rw [List.head?_append_of_ne_nil _ space_ne] at head
          exact space_blank.isBlank_of_mem (List.mem_of_mem_head? head)
        have scan := Scan.rawDestination_append destination follows
        rw [skipBlanks_append blank, Scan.solid_of_rawDestination scan, scan]
      have skip : skipBlanks (space ++ u) = u := by rw [skipBlanks_append space_blank, solid]
      have moved : u ≠ space ++ u := by
        intro same
        exact space_ne (List.self_eq_append_left.1 same)
      rw [readDestination, scan]
      simp only [skip, if_neg u_ne, if_neg moved]

theorem openTitle_eq_ok_iff :
    p.openTitle label destination t = .ok (q, u) ↔
      (∃ b o closing, Blank b ∧ titleCloser? o = some closing ∧ b ++ o :: u = t ∧
        q = p.goto (.title label destination closing (markAtEnd u))) ∨
      ∃ b r, Blank b ∧ Solid u ∧ (∀ c ∈ u.head?, titleCloser? c = none) ∧ b ++ u = t ∧
        p.finalize = .ok r ∧ q = r.goto .startDefinition := by
  constructor
  · intro h
    obtain ⟨solid, b, blank, whole⟩ := skipBlanks_eq_iff.1 (rfl : skipBlanks t = _)
    unfold openTitle at h
    dsimp only at h
    split at h
    · next eq =>
      obtain ⟨r, settled, rfl, rfl⟩ := bind_during_eq_ok_iff.1 h
      rw [eq] at whole
      exact .inr ⟨b, r, blank, solid_nil, by simp, whole, settled, rfl⟩
    · next c rest eq =>
      rw [eq] at whole solid
      split at h
      · next other =>
        obtain ⟨r, settled, rfl, rfl⟩ := bind_during_eq_ok_iff.1 h
        exact .inr ⟨b, r, blank, solid, by simpa using other, whole, settled, rfl⟩
      · next closing paired =>
        obtain ⟨rfl, rfl⟩ := Prod.mk.inj (Except.ok.inj h)
        exact .inl ⟨b, c, closing, blank, paired, whole, rfl⟩
  · rintro (⟨b, o, closing, blank, paired, rfl, rfl⟩ |
      ⟨b, r, blank, solid, other, rfl, settled, rfl⟩)
    · have skip : skipBlanks (b ++ o :: u) = o :: u :=
        skipBlanks_eq_iff.2 ⟨solid_cons_iff.2 (solid_of_titleCloser paired).1, b, blank, rfl⟩
      simp only [openTitle, skip, paired]
    · have skip : skipBlanks (b ++ u) = u := skipBlanks_eq_iff.2 ⟨solid, b, blank, rfl⟩
      unfold openTitle
      simp only [skip]
      cases u with
      | nil => exact bind_during_eq_ok_iff.2 ⟨r, settled, rfl⟩
      | cons c u =>
        simp only [other c rfl]
        exact bind_during_eq_ok_iff.2 ⟨r, settled, rfl⟩

theorem readTitle_eq_some_iff :
    p.readTitle label destination closing raw t = .ok (some (q, u)) ↔
      (Clear (Scan.endsTitle [closing]) t ∧ u = [] ∧
        q = p.goto (.title label destination closing (raw ++ t ++ [continuationMark]))) ∨
      ∃ body trail r, Encloses (Scan.endsTitle [closing]) body closing ∧ Blank trail ∧ u = [] ∧
        body ++ closing :: trail = t ∧
        finalize { p with pending := some ⟨label, destination, some (raw ++ body)⟩ } = .ok r ∧
        q = { r with stage := .startDefinition, remaining := [] } := by
  constructor
  · intro h
    unfold readTitle at h
    split at h
    · cases h
    · next body eq =>
      obtain ⟨rfl, rfl⟩ := Prod.mk.inj (Option.some.inj (Except.ok.inj h))
      obtain ⟨whole, ⟨-, clear⟩ | ⟨s, nil, -⟩⟩ := Scan.title_eq_some_iff.1 eq
      · rw [List.append_nil] at whole
        subst whole
        exact .inl ⟨clear, rfl, rfl⟩
      · cases nil
    · next body c rest eq =>
      split at h
      · next ends =>
        obtain ⟨r, settled, rfl, rfl⟩ := bind_during_eq_ok_iff.1 h
        obtain ⟨whole, ⟨nil, -⟩ | ⟨s, closed, encloses⟩⟩ := Scan.title_eq_some_iff.1 eq
        · cases nil
        · obtain ⟨rfl, -⟩ := List.cons.inj closed
          exact .inr ⟨body, rest, r, encloses, skipBlanks_eq_nil_iff.1 ends, rfl, whole, settled,
            rfl⟩
      · cases h
  · rintro (⟨clear, rfl, rfl⟩ | ⟨body, trail, r, encloses, blank, rfl, rfl, settled, rfl⟩)
    · have scan := Scan.title_eq_some_iff.2 ⟨List.append_nil t, .inl ⟨rfl, clear⟩⟩
      rw [readTitle, scan]
    · have scan : Scan.title [closing] (body ++ closing :: trail) =
          some (body, closing :: trail) :=
        Scan.title_eq_some_iff.2 ⟨rfl, .inr ⟨_, rfl, encloses⟩⟩
      rw [readTitle, scan]
      simp only [if_pos (skipBlanks_eq_nil_iff.2 blank)]
      exact bind_during_eq_ok_iff.2 ⟨r, settled, rfl⟩

/-! ### Moves -/

/-- What one step can do from `p` on the unread text. -/
inductive Move (p : Parser) : Text → Parser → Text → Prop
  /-- A bracket opens a label. -/
  | openLabel {b u : Text} (stage : p.stage = .startDefinition) (blank : Blank b) :
      Move p (b ++ '[' :: u) (p.goto (.label (markAtEnd u))) u
  /-- The label goes on in the next line. -/
  | extendLabel {raw t : Text} (stage : p.stage = .label raw) (clear : Clear Scan.isBracket t) :
      Move p t (p.goto (.label (raw ++ t ++ [continuationMark]))) []
  /-- A bracket and a colon close the label. -/
  | closeLabel {raw body b u : Text} (stage : p.stage = .label raw)
      (encloses : Encloses Scan.isBracket body ']') (blank : Blank b) (solid : Solid u)
      (short : (raw ++ body).length ≤ p.labelLimit) (key : Label.key (raw ++ body) ≠ []) :
      Move p (body ++ ']' :: ':' :: (b ++ u)) (p.goto (.destination (Label.key (raw ++ body)))) u
  /-- The destination ends the line, and the definition is complete without a title. -/
  | endDestination {label b w v trail : Text} (stage : p.stage = .destination label)
      (blank : Blank b) (whole : Scan.rawDestination w = some (v, [])) (trail_blank : Blank trail) :
      Move p (b ++ (w ++ trail))
        { p with stage := .startTitle label v, pending := some ⟨label, v, none⟩, remaining := [] }
        []
  /-- Blanks separate the destination from what follows in the line. -/
  | passDestination {label b w v space u : Text} (stage : p.stage = .destination label)
      (blank : Blank b) (whole : Scan.rawDestination w = some (v, [])) (space_blank : Blank space)
      (space_ne : space ≠ []) (solid : Solid u) (u_ne : u ≠ []) :
      Move p (b ++ (w ++ (space ++ u))) (p.goto (.startTitle label v)) u
  /-- A mark opens a title. -/
  | openTitle {label destination b u : Text} {o closing : Char}
      (stage : p.stage = .startTitle label destination) (blank : Blank b)
      (paired : titleCloser? o = some closing) :
      Move p (b ++ o :: u) (p.goto (.title label destination closing (markAtEnd u))) u
  /-- No title follows, and a pending draft is settled. -/
  | skipTitle {label destination b u : Text} {r : Parser}
      (stage : p.stage = .startTitle label destination) (blank : Blank b) (solid : Solid u)
      (other : ∀ c ∈ u.head?, titleCloser? c = none) (settled : p.finalize = .ok r) :
      Move p (b ++ u) (r.goto .startDefinition) u
  /-- The title goes on in the next line. -/
  | extendTitle {label destination raw t : Text} {closing : Char}
      (stage : p.stage = .title label destination closing raw)
      (clear : Clear (Scan.endsTitle [closing]) t) :
      Move p t (p.goto (.title label destination closing (raw ++ t ++ [continuationMark]))) []
  /-- A mark closes the title, and the definition is complete. -/
  | closeTitle {label destination raw body trail : Text} {closing : Char} {r : Parser}
      (stage : p.stage = .title label destination closing raw)
      (encloses : Encloses (Scan.endsTitle [closing]) body closing) (blank : Blank trail)
      (settled :
        finalize { p with pending := some ⟨label, destination, some (raw ++ body)⟩ } = .ok r) :
      Move p (body ++ closing :: trail) { r with stage := .startDefinition, remaining := [] } []

/-- The steps that match are the moves. -/
theorem step_eq_some_iff : p.step t = .ok (some (q, u)) ↔ p.Move t q u := by
  constructor
  · intro h
    unfold step at h
    split at h
    · next stage =>
      obtain ⟨b, blank, rfl, rfl⟩ := openLabel_eq_some_iff.1 (Except.ok.inj h)
      exact .openLabel stage blank
    · next raw stage =>
      obtain ⟨clear, rfl, rfl⟩ | ⟨body, b, encloses, blank, solid, rfl, short, key, rfl⟩ :=
        readLabel_eq_some_iff.1 (Except.ok.inj h)
      · exact .extendLabel stage clear
      · exact .closeLabel stage encloses blank solid short key
    · next label stage =>
      obtain ⟨b, w, v, trail, blank, whole, trail_blank, rfl, rfl, rfl⟩ |
        ⟨b, w, v, space, blank, whole, space_blank, space_ne, solid, u_ne, rfl, rfl⟩ :=
        readDestination_eq_some_iff.1 (Except.ok.inj h)
      · exact .endDestination stage blank whole trail_blank
      · exact .passDestination stage blank whole space_blank space_ne solid u_ne
    · next label destination stage =>
      have opened : p.openTitle label destination t = .ok (q, u) := by
        cases eq : p.openTitle label destination t <;>
          simp_all [bind, Except.bind, pure, Except.pure]
      obtain ⟨b, o, closing, blank, paired, rfl, rfl⟩ |
        ⟨b, r, blank, solid, other, rfl, settled, rfl⟩ := openTitle_eq_ok_iff.1 opened
      · exact .openTitle stage blank paired
      · exact .skipTitle stage blank solid other settled
    · next label destination closing raw stage =>
      obtain ⟨clear, rfl, rfl⟩ | ⟨body, trail, r, encloses, blank, rfl, rfl, settled, rfl⟩ :=
        readTitle_eq_some_iff.1 h
      · exact .extendTitle stage clear
      · exact .closeTitle stage encloses blank settled
    · cases h
    · cases h
  · intro h
    unfold step
    cases h with
    | openLabel stage blank =>
      simp only [stage]
      exact congrArg _ (openLabel_eq_some_iff.2 ⟨_, blank, rfl, rfl⟩)
    | extendLabel stage clear =>
      simp only [stage]
      exact congrArg _ (readLabel_eq_some_iff.2 (.inl ⟨clear, rfl, rfl⟩))
    | closeLabel stage encloses blank solid short key =>
      simp only [stage]
      exact congrArg _ (readLabel_eq_some_iff.2
        (.inr ⟨_, _, encloses, blank, solid, rfl, short, key, rfl⟩))
    | endDestination stage blank whole trail_blank =>
      simp only [stage]
      exact congrArg _ (readDestination_eq_some_iff.2
        (.inl ⟨_, _, _, _, blank, whole, trail_blank, rfl, rfl, rfl⟩))
    | passDestination stage blank whole space_blank space_ne solid u_ne =>
      simp only [stage]
      exact congrArg _ (readDestination_eq_some_iff.2
        (.inr ⟨_, _, _, _, blank, whole, space_blank, space_ne, solid, u_ne, rfl, rfl⟩))
    | openTitle stage blank paired =>
      simp only [stage]
      rw [openTitle_eq_ok_iff.2 (.inl ⟨_, _, _, blank, paired, rfl, rfl⟩)]
      rfl
    | skipTitle stage blank solid other settled =>
      simp only [stage]
      rw [openTitle_eq_ok_iff.2 (.inr ⟨_, _, blank, solid, other, rfl, settled, rfl⟩)]
      rfl
    | extendTitle stage clear =>
      simp only [stage]
      exact readTitle_eq_some_iff.2 (.inl ⟨clear, rfl, rfl⟩)
    | closeTitle stage encloses blank settled =>
      simp only [stage]
      exact readTitle_eq_some_iff.2 (.inr ⟨_, _, _, encloses, blank, rfl, rfl, settled, rfl⟩)

/-- No move begins or ends in a paragraph. -/
theorem Move.ne_paragraph (move : p.Move t q u) :
    p.stage ≠ .paragraph ∧ q.stage ≠ .paragraph := by
  cases move with
  | openLabel stage | extendLabel stage | closeLabel stage | endDestination stage
  | passDestination stage | openTitle stage | skipTitle stage | extendTitle stage
  | closeTitle stage =>
    exact ⟨stage ▸ Stage.noConfusion, Stage.noConfusion⟩

/-- A parser that is stuck makes no move. -/
theorem Move.not_stuck (move : p.Move t q u) : p.step t ≠ .ok none := by
  rw [step_eq_some_iff.2 move]
  exact fun stuck => Option.some_ne_none _ (Except.ok.inj stuck)

/-- In a paragraph a step fails, so a text that does not match is one of another stage. -/
theorem ne_paragraph_of_stuck (stuck : p.step t = .ok none) : p.stage ≠ .paragraph := by
  intro stage
  unfold step at stuck
  rw [stage] at stuck
  cases stuck

/-- A move leaves a final part of the text. -/
theorem Move.suffix (move : p.Move t q u) : u <:+ t := by
  cases move with
  | @openLabel b u stage blank => exact ⟨b ++ ['['], by simp⟩
  | @closeLabel raw body b u => exact ⟨body ++ ']' :: ':' :: b, by simp⟩
  | @passDestination label b w v space u => exact ⟨b ++ (w ++ space), by simp⟩
  | @openTitle label destination b u o => exact ⟨b ++ [o], by simp⟩
  | @skipTitle label destination b u => exact ⟨b, rfl⟩
  | extendLabel | endDestination | extendTitle | closeTitle => exact List.nil_suffix

/-! ### Reading a line -/

/-- The way of a parser through the unread rest of a line: moves up to the end of the line, or up
to a text on which no move is possible. -/
inductive Reading (line : Text) : Parser → Text → Parser → Prop
  | finished (p : Parser) : Reading line p [] p
  | demoted {p : Parser} {t : Text} (nonempty : t ≠ []) (stuck : p.step t = .ok none) :
      Reading line p t (p.demote line)
  | moved {p q r : Parser} {t u : Text} (nonempty : t ≠ []) (move : p.Move t q u)
      (rest : Reading line q u r) : Reading line p t r

theorem Reading.eq_of_nil (reading : Reading line p [] q) : q = p := by
  cases reading with
  | finished => rfl
  | demoted nonempty _ => exact absurd rfl nonempty
  | moved nonempty _ _ => exact absurd rfl nonempty

/-- A line that can be read is read in this way. -/
theorem reading_of_read (h : p.read line t = .ok q) : Reading line p t q := by
  fun_induction read p line t with
  | case1 p =>
    cases h
    exact .finished q
  | case2 p t nonempty fault eq => cases h
  | case3 p t nonempty eq =>
    cases h
    exact .demoted nonempty eq
  | case4 p t nonempty r u eq ih => exact .moved nonempty (step_eq_some_iff.1 eq) (ih h)

theorem read_of_reading (h : Reading line p t q) : p.read line t = .ok q := by
  induction h with
  | finished p => exact read_nil p line
  | demoted nonempty stuck => exact read_of_no_match nonempty stuck
  | moved nonempty move _ ih => rw [read_of_match nonempty (step_eq_some_iff.2 move), ih]

end Parser

end LinkDefinitions
