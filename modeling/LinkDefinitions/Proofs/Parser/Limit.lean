import LinkDefinitions.Proofs.Parser.Alike
import LinkDefinitions.Proofs.Parser.Demotion

/-!
# A greater limit for labels

Two parsers with different limits are fed the same lines. They go the same way, but for the limit,
until a label is closed that is too long for one of them and not for the other. There the one with
the smaller limit makes a paragraph of the block, while the other one goes on.

No draft is pending within a label, so what the first parser has found by then is final for both,
and all that the second one leaves later is left by the first one too (`Outruns`). Hence a greater
limit only adds definitions at the end and only takes away lines at the beginning
(`feedAll_limit_le`).
-/

namespace LinkDefinitions

namespace Parser

variable {p p' q r : Parser} {line t u raw : Text} {lines : List Text} {limit m n : Nat}

/-- The parser with another limit for the length of labels. -/
def withLimit (limit : Nat) (p : Parser) : Parser := { p with labelLimit := limit }

theorem withLimit_withLimit (p : Parser) (m n : Nat) :
    (p.withLimit m).withLimit n = p.withLimit n := rfl

theorem withLimit_self (p : Parser) : p.withLimit p.labelLimit = p := rfl

theorem Coherent.withLimit (h : p.Coherent) (limit : Nat) : (p.withLimit limit).Coherent := h

theorem finalize_withLimit (limit : Nat) (h : p.finalize = .ok r) :
    (p.withLimit limit).finalize = .ok (r.withLimit limit) := by
  have same : (p.withLimit limit).pending = p.pending := rfl
  unfold finalize at h ⊢
  rw [same]
  cases pending : p.pending with
  | none =>
    rw [pending] at h
    obtain rfl := Except.ok.inj h
    rfl
  | some d =>
    rw [pending] at h
    dsimp only at h ⊢
    cases definition : d.definition with
    | error fault =>
      rw [definition] at h
      cases h
    | ok e =>
      rw [definition] at h
      obtain rfl := Except.ok.inj h
      rfl

/-! ### Where the limit matters -/

/-- The unread text goes up to the closing bracket and the colon of a label with the given raw
text. -/
def AtClose (p : Parser) (t raw : Text) : Prop :=
  ∃ begun body rest, p.stage = .label begun ∧ Encloses Scan.isBracket body ']' ∧
    begun ++ body = raw ∧ body ++ ']' :: ':' :: rest = t

/-- A move depends on the limit only where it closes a label. -/
theorem Move.withLimit
    (fits : ∀ raw, p.AtClose t raw → raw.length ≤ p.labelLimit → raw.length ≤ limit)
    (move : p.Move t q u) : (p.withLimit limit).Move t (q.withLimit limit) u := by
  cases move with
  | openLabel stage blank => exact .openLabel stage blank
  | extendLabel stage clear => exact .extendLabel stage clear
  | closeLabel stage encloses blank solid short key =>
    have short' := fits _ ⟨_, _, _, stage, encloses, rfl, rfl⟩ short
    exact .closeLabel stage encloses blank solid short' key
  | endDestination stage blank whole trail_blank =>
    exact .endDestination stage blank whole trail_blank
  | passDestination stage blank whole space_blank space_ne solid u_ne =>
    exact .passDestination stage blank whole space_blank space_ne solid u_ne
  | openTitle stage blank paired => exact .openTitle stage blank paired
  | skipTitle stage blank solid other settled =>
    have settled' := finalize_withLimit limit settled
    have stage' : (p.withLimit limit).stage = _ := stage
    exact .skipTitle stage' blank solid other settled'
  | extendTitle stage clear => exact .extendTitle stage clear
  | closeTitle stage encloses blank settled =>
    have settled' := finalize_withLimit limit settled
    have stage' : (p.withLimit limit).stage = _ := stage
    exact .closeTitle stage' encloses blank settled'

/-- A parser that is stuck goes on with a greater limit only if it is at the end of a label that is
too long for the smaller one. -/
theorem Coherent.stuck_withLimit (h : p.Coherent) (stuck : p.step t = .ok none) :
    (p.withLimit limit).step t = .ok none ∨
      ∃ raw, p.AtClose t raw ∧ p.labelLimit < raw.length ∧ raw.length ≤ limit := by
  refine or_iff_not_imp_right.2 fun never => ?_
  have goes_on : p.stage ≠ .paragraph := ne_paragraph_of_stuck stuck
  refine (h.withLimit limit).stuck_of_not_move goes_on fun q u move => ?_
  have fits (raw : Text) (closes : (p.withLimit limit).AtClose t raw)
      (short : raw.length ≤ limit) : raw.length ≤ p.labelLimit := by
    by_contra long
    exact never ⟨raw, closes, by omega, short⟩
  have back := move.withLimit fits
  rw [withLimit_withLimit, withLimit_self] at back
  exact back.not_stuck stuck

/-- On its way through the rest of a line the parser closes a label with the given raw text. -/
inductive Closes (raw : Text) : Parser → Text → Prop
  | here {p : Parser} {t : Text} (closes : p.AtClose t raw) : Closes raw p t
  | later {p q : Parser} {t u : Text} (nonempty : t ≠ []) (move : p.Move t q u)
      (rest : Closes raw q u) : Closes raw p t

/-! ### One line with two limits -/

/-- The first parser has come to a paragraph. What it has found is final in the second parser too,
and what the second one has left is the last part of what the first one has left. -/
structure Outruns (p p' : Parser) : Prop where
  stage : p.stage = .paragraph
  finalized : p.committed <+: p'.finalized
  remaining : p'.remaining <:+ p.remaining

/-- While nothing is pending, what has been found is final. -/
theorem Reading.final_of_idle (h : p.Coherent) (idle : p.pending = none)
    (reading : Reading line p t q) :
    p.finalized <+: q.finalized ∧ q.remaining <:+ p.remaining := by
  rcases reading.quiet_or_commits h with quiet | ⟨x, quiet, commits⟩
  · rw [(quiet.of_idle idle).1, quiet.remaining]
    exact ⟨List.prefix_rfl, List.suffix_rfl⟩
  · rw [← (quiet.of_idle idle).1]
    cases commits with
    | drafted d untitled before finalized pending remaining =>
      rw [finalized, remaining]
      exact ⟨List.prefix_rfl, List.nil_suffix⟩
    | titled d title untitled before finalized pending remaining =>
      rw [finalized, remaining]
      exact ⟨List.prefix_append _ _, List.nil_suffix⟩

/-- A line with two limits: the parsers agree at its end, or it closes a label whose length is
between the limits. -/
theorem Reading.withLimit (h : p.Coherent) (le : p.labelLimit ≤ limit)
    (reading : Reading line p t q) :
    ∃ q', Reading line (p.withLimit limit) t q' ∧
      (q' = q.withLimit limit ∨
        Outruns q q' ∧ ∃ raw, Closes raw (p.withLimit limit) t ∧ p.labelLimit < raw.length ∧
          raw.length ≤ limit) := by
  induction reading with
  | finished p => exact ⟨_, .finished _, .inl rfl⟩
  | @demoted p t nonempty stuck =>
    rcases h.stuck_withLimit stuck with stuck' | ⟨raw, closes, long, short⟩
    · exact ⟨_, .demoted nonempty stuck', .inl rfl⟩
    · have goes_on : p.stage ≠ .paragraph := ne_paragraph_of_stuck stuck
      obtain ⟨q', reading⟩ := (h.withLimit limit).exists_reading goes_on line t
      have idle : p.pending = none := by
        obtain ⟨begun, body, rest, stage, -⟩ := closes
        exact h.allows stage
      obtain ⟨final, left⟩ := reading.final_of_idle (h.withLimit limit) idle
      have found : (p.demote line).committed = p.finalized := committed_of_pending_eq_none idle
      exact ⟨q', reading, .inr ⟨⟨rfl, found ▸ final, left⟩, raw, .here closes, long, short⟩⟩
  | @moved p m q t u nonempty move rest ih =>
    have same : m.labelLimit = p.labelLimit := move.labelLimit
    have move' : (p.withLimit limit).Move t (m.withLimit limit) u :=
      move.withLimit fun raw _ short => short.trans le
    obtain ⟨q', rest', agree | ⟨outruns, raw, closes, long, short⟩⟩ :=
      ih (move.coherent h) (same ▸ le)
    · exact ⟨q', .moved nonempty move' rest', .inl agree⟩
    · exact ⟨q', .moved nonempty move' rest',
        .inr ⟨outruns, raw, .later nonempty move' closes, same ▸ long, short⟩⟩

/-! ### Many lines -/

/-- Another line changes nothing of it: a paragraph keeps the line, and what is final stays. -/
theorem Outruns.feed (outruns : Outruns p p') (h : p.Coherent) (h' : p'.Coherent) (line : Text) :
    Outruns (p.call (.feed line)) (p'.call (.feed line)) := by
  have kept : (p.call (.feed line)) = p.keep line := by
    obtain ⟨q, fed, -, ⟨-, rfl⟩ | ⟨goes_on, -⟩⟩ := h.feed_cases line
    · exact call_feed fed
    · exact absurd outruns.stage goes_on
  have final := (h'.grows_after [.feed line]).finalized_kept
  rw [kept]
  refine ⟨outruns.stage, outruns.finalized.trans final, ?_⟩
  rw [h'.remaining_call_feed line, keep_remaining]
  by_cases same : (p'.call (.feed line)).committed = p'.committed
  · rw [if_pos same]
    exact List.suffix_append_self_iff.2 outruns.remaining
  · rw [if_neg same]
    exact List.nil_suffix

/-- How two runs over the same lines stand to each other, with limits of which the second is not
smaller: they agree but for the limits, or at some line the first one has come to a paragraph, where
the second one closes a label with a length between the limits. -/
inductive Tracks (m n : Nat) (lines : List Text) (p p' : Parser) : Prop
  | agree (eq : p' = p.withLimit n)
  | parted (before : List Text) (line : Text) (after : List Text) (raw : Text)
      (whole : lines = before ++ line :: after)
      (closes : Closes raw ((fed n before).keep line) line) (long : m < raw.length)
      (short : raw.length ≤ n) (stage : (fed m (before ++ [line])).stage = .paragraph)
      (outruns : Outruns p p')

theorem Tracks.feed (tracks : Tracks m n lines (fed m lines) (fed n lines)) (le : m ≤ n)
    (line : Text) :
    Tracks m n (lines ++ [line]) (fed m (lines ++ [line])) (fed n (lines ++ [line])) := by
  have h := coherent_fed m lines
  have limit : (fed m lines).labelLimit = m := labelLimit_after m _
  cases tracks with
  | parted before line' after raw whole closes long short stage outruns =>
    refine .parted before line' (after ++ [line]) raw ?_ closes long short stage ?_
    · rw [whole, List.append_assoc, List.cons_append]
    · rw [fed_concat, fed_concat]
      exact outruns.feed h (coherent_fed n lines) line
  | agree eq =>
    obtain ⟨q, fed_line, -, ⟨paragraph, rfl⟩ | ⟨goes_on, reading⟩⟩ := h.feed_cases line
    · refine .agree ?_
      obtain ⟨q', fed_line', -, ⟨-, rfl⟩ | ⟨goes_on', -⟩⟩ := (coherent_fed n lines).feed_cases line
      · rw [fed_concat, fed_concat, call_feed fed_line, call_feed fed_line', eq]
        rfl
      · rw [eq] at goes_on'
        exact absurd paragraph goes_on'
    · have kept : ((fed m lines).keep line).Coherent := h
      obtain ⟨q', reading', outcome⟩ := reading.withLimit kept (limit.le.trans le)
      have fed_line' : (fed n lines).feed line = ⟨q', none⟩ := by
        rw [eq]
        exact feed_of_reading goes_on reading'
      have first : fed m (lines ++ [line]) = q := by rw [fed_concat, call_feed fed_line]
      have second : fed n (lines ++ [line]) = q' := by rw [fed_concat, call_feed fed_line']
      rcases outcome with agree | ⟨outruns, raw, closes, long, short⟩
      · rw [first, second]
        exact .agree agree
      · have kept_eq : (fed n lines).keep line = ((fed m lines).keep line).withLimit n := by
          rw [eq]
          rfl
        refine .parted lines line [] raw rfl (kept_eq ▸ closes) (limit ▸ long) short ?_ ?_
        · rw [first]
          exact outruns.stage
        · rw [first, second]
          exact outruns

theorem tracks_fed (le : m ≤ n) (lines : List Text) :
    Tracks m n lines (fed m lines) (fed n lines) := by
  induction lines using List.reverseRecOn with
  | nil => exact .agree rfl
  | append_singleton lines line ih => exact ih.feed le line

theorem paragraph_fed_append (stage : (fed m lines).stage = .paragraph) (more : List Text) :
    (fed m (lines ++ more)).stage = .paragraph := by
  have abides : Abides (fed m lines) [] (fed m lines) := ⟨stage, rfl, (List.append_nil _).symm⟩
  rw [fed_append]
  exact (abides.after (coherent_fed m lines) _).stage

/-- **A greater limit.** Fed the same lines, a parser with a greater limit finds the definitions
that one with a smaller limit finds, and possibly others after them, and what it leaves is the last
part of what the other one leaves. Either the two parsers agree in everything but the limit, or at
some line the one with the greater limit closes a label that is too long for the smaller limit, and
from that line on the other one is in a paragraph. -/
theorem feedAll_limit_le (le : m ≤ n) (lines : List Text) :
    ∃ p q p' q' ds ds', (fresh m).feedAll lines = .ok p ∧ p.harvest = .ok (ds, q) ∧
      (fresh n).feedAll lines = .ok p' ∧ p'.harvest = .ok (ds', q') ∧
      ds <+: ds' ∧ p'.remaining <:+ p.remaining ∧
      (p' = p.withLimit n ∧ q' = q.withLimit n ∧ ds' = ds ∨
        ∃ before line after raw, lines = before ++ line :: after ∧
          Closes raw ((fed n before).keep line) line ∧ m < raw.length ∧ raw.length ≤ n ∧
          ∀ k, (fed m (before ++ line :: after.take k)).stage = .paragraph) := by
  refine ⟨fed m lines, (fed m lines).settled, fed n lines, (fed n lines).settled, _, _,
    feedAll_fresh m lines, (coherent_fed m lines).harvest_eq, feedAll_fresh n lines,
    (coherent_fed n lines).harvest_eq, ?_⟩
  cases tracks_fed le lines with
  | agree eq =>
    rw [eq]
    exact ⟨List.prefix_rfl, List.suffix_rfl, .inl ⟨rfl, rfl, rfl⟩⟩
  | parted before line after raw whole closes long short stage outruns =>
    refine ⟨outruns.finalized.trans (List.prefix_append _ _), outruns.remaining,
      .inr ⟨before, line, after, raw, whole, closes, long, short, fun k => ?_⟩⟩
    have later := paragraph_fed_append stage (after.take k)
    rwa [List.append_assoc] at later

/-- Three definitions, of which the label of the second is too long for the smaller limit. -/
theorem feedAll_limit_le_threeLines :
    let lines := ["[ab]: /x".toList, "[abcd]: /y".toList, "[c]: /z".toList]
    3 ≤ 5 ∧ ∃ p q p' q' ds ds', (fresh 3).feedAll lines = .ok p ∧ p.harvest = .ok (ds, q) ∧
      (fresh 5).feedAll lines = .ok p' ∧ p'.harvest = .ok (ds', q') ∧
      ds = [⟨"ab".toList, "/x".toList, none⟩] ∧ ds'.length = 3 ∧ ds <+: ds' ∧
      p'.remaining <:+ p.remaining ∧
      ∃ before line after raw, lines = before ++ line :: after ∧
        Closes raw ((fed 5 before).keep line) line ∧ 3 < raw.length ∧ raw.length ≤ 5 ∧
        ∀ k, (fed 3 (before ++ line :: after.take k)).stage = .paragraph := by
  intro lines
  have le : 3 ≤ 5 := by decide
  have found : (fed 3 lines).committed = [⟨"ab".toList, "/x".toList, none⟩] := by decide +kernel
  have found' : (fed 5 lines).committed.length = 3 := by decide +kernel
  obtain ⟨p, q, p', q', ds, ds', fed_p, harvest, fed_p', harvest', first, last, outcome⟩ :=
    feedAll_limit_le le lines
  have ds_eq : ds = (fed 3 lines).committed := by
    rw [feedAll_fresh] at fed_p
    obtain rfl := Except.ok.inj fed_p
    rw [(coherent_fed 3 lines).harvest_eq] at harvest
    exact (Prod.mk.inj (Except.ok.inj harvest)).1.symm
  have ds'_eq : ds' = (fed 5 lines).committed := by
    rw [feedAll_fresh] at fed_p'
    obtain rfl := Except.ok.inj fed_p'
    rw [(coherent_fed 5 lines).harvest_eq] at harvest'
    exact (Prod.mk.inj (Except.ok.inj harvest')).1.symm
  have one : ds = [⟨"ab".toList, "/x".toList, none⟩] := ds_eq.trans found
  have three : ds'.length = 3 := by rw [ds'_eq, found']
  refine ⟨le, p, q, p', q', ds, ds', fed_p, harvest, fed_p', harvest', one, three, first, last,
    outcome.resolve_left ?_⟩
  rintro ⟨-, -, rfl⟩
  rw [one] at three
  cases three

end Parser

end LinkDefinitions
