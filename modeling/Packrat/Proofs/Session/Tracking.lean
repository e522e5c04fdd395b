import Packrat.Proofs.Accord
import Packrat.Proofs.Lexing

/-! Staying on the track of the tokens. Where tokens are taken in the default goal and nothing is recovered
from, every session stands between two tokens of the source. -/
namespace Packrat

mutual

def Body.inDefaultGoal : Body → Bool
  | .consume _ goal => goal == defaultGoal
  | .inOrder parts => Body.inDefaultGoalAll parts
  | .firstOf branches => Body.inDefaultGoalAll branches
  | .many body => body.inDefaultGoal
  | .some body => body.inDefaultGoal
  | .optional body => body.inDefaultGoal
  | .whenRecording _ parsed => parsed.inDefaultGoal
  | .attempt body => body.inDefaultGoal
  | .call _ _ => true
  | .notAhead _ _ => true
  | .sameLine => true
  | .mismatch => true
  | .raise _ => true

def Body.inDefaultGoalAll : List Body → Bool
  | [] => true
  | b :: rest => b.inDefaultGoal && Body.inDefaultGoalAll rest

end

def Task.Straight : Task → Prop
  | .body b => b.inDefaultGoal
  | .rounds b _ _ => b.inDefaultGoal
  | .recover _ => False
  | .skip _ => False

theorem Task.straightFirst {b : Body} {rest : List Body} (h : Body.inDefaultGoalAll (b :: rest)) :
    b.inDefaultGoal ∧ Body.inDefaultGoalAll rest := by
  rwa [Body.inDefaultGoalAll, Bool.and_eq_true] at h

namespace Session

variable {env : Setup} {s t u : Session}

theorem Starts.keepsStraight {call : String → String → Action} {k k' : Task} (off : env.config.recover = false)
    (starts : Starts env call k s k' t) (h : k.Straight) : k'.Straight := by
  have idle : ∀ {moved : Bool}, (env.config.recover && moved) = true → False := by simp [off]
  cases starts with
  | first => exact (Task.straightFirst h).1
  | next _ => exact (Task.straightFirst h).2
  | branch => exact (Task.straightFirst h).1
  | other _ => exact (Task.straightFirst h).2
  | optional => exact h
  | many => exact h
  | once => exact h
  | more _ _ => exact h
  | parsed => exact h
  | attempt => exact h
  | round => exact h
  | again _ _ => exact h
  | recover _ moved => exact (idle moved).elim
  | recovered _ moved _ => exact (idle moved).elim
  | skip _ => exact h
  | skipToken _ _ => exact h
  | skipUnknown _ => exact h

theorem Reached.keepsStraight {rules : Rules} {depth d : Nat} {task k : Task} (off : env.config.recover = false)
    (straight : ∀ rule, (rules.body rule).inDefaultGoal) (reached : Reached env rules depth task s d k t)
    (h : task.Straight) : k.Straight := by
  induction reached with
  | start => exact h
  | within _ starts ih => exact starts.keepsStraight off ih
  | @enter _ _ rule _ _ _ _ _ => exact straight rule

end Session

def Memo.Tracks (env : Setup) (key : MemoKey) : Memo → Prop
  | .success stop _ tokens _ => ∀ p : Place, p.OnTrack env → p.key key.rule = key →
      ∃ read first, p.Reads env read stop.place ∧ tokens = Session.renumber first read
  | .failure _ => True

def TrueOnTrack (env : Setup) (scans : List (ScanKey × Scan)) : Prop :=
  ∀ p : Place, p.OnTrack env → ∀ goal found, (p.scanKey goal, found) ∈ scans → found = p.read env goal

structure Session.Tracks (env : Setup) (s : Session) : Prop where
  place : s.place.OnTrack env
  scans : TrueOnTrack env s.scans
  memo : ∀ e ∈ s.memo.entries, e.2.Tracks env e.1

namespace Session

structure Lexes (env : Setup) (s : Session) (tokens : List Token) (t : Session) : Prop where
  reads : s.place.Reads env tokens t.place
  index : t.state.tokenIndex = s.state.tokenIndex + tokens.length
  taken : t.taken = s.taken ++ renumber s.state.tokenIndex tokens

def tracking (env : Setup) : Invariant :=
  ⟨fun s => s.Sound env ∧ s.Tracks env, fun s t => (growing env).along s t ∧ ∃ tokens, s.Lexes env tokens t⟩

variable {env : Setup} {s t u : Session} {tokens more : List Token}

theorem Lexes.trans (st : s.Lexes env tokens t) (tu : t.Lexes env more u) : s.Lexes env (tokens ++ more) u where
  reads := st.reads.thenReads tu.reads
  index := by rw [tu.index, st.index, List.length_append, Nat.add_assoc]
  taken := by rw [tu.taken, st.taken, st.index, List.append_assoc, ← renumberAppend]

theorem Returned.placeKept (h : s.Returned t) : t.place = s.place := congrArg State.place h.state

theorem Returned.takenKept (h : s.Returned t) : t.taken = s.taken := by
  rw [Session.taken, h.state]
  exact h.tokens

theorem Returned.lexesNothing (h : s.Returned t) : s.Lexes env [] t where
  reads := h.placeKept ▸ .nil
  index := congrArg State.tokenIndex h.state
  taken := h.takenKept.trans (List.append_nil _).symm

theorem Tracks.afterReturn (h : s.Tracks env) (back : s.Returned t) (scans : TrueOnTrack env t.scans)
    (memo : ∀ e ∈ t.memo.entries, e.2.Tracks env e.1) : t.Tracks env :=
  ⟨back.placeKept ▸ h.place, scans, memo⟩

theorem pushChildPlace (s : Session) (node : Tree) : (s.pushChild node).place = s.place :=
  congrArg State.place (pushChildState s node)

theorem pushChildTaken (s : Session) (node : Tree) : (s.pushChild node).taken = s.taken := by
  rw [taken, pushChildState]
  exact congrArg (·.tokens.take s.state.tokenIndex) (pushChildView s node)

theorem Tracks.pushChild (h : s.Tracks env) (node : Tree) : (s.pushChild node).Tracks env where
  place := pushChildPlace s node ▸ h.place
  scans := pushChildScans s node ▸ h.scans
  memo := pushChildMemo s node ▸ h.memo

theorem Lexes.pushChild (h : s.Lexes env tokens t) (node : Tree) : s.Lexes env tokens (t.pushChild node) where
  reads := pushChildPlace t node ▸ h.reads
  index := pushChildState t node ▸ h.index
  taken := (pushChildTaken t node).trans h.taken

theorem Tracks.afterScan (h : s.Tracks env) (goal : Goal) :
    ∃ scans, s.scan env goal = (s.place.read env goal, { s with scans := scans }) ∧
      ({ s with scans := scans } : Session).Tracks env := by
  have told : ∀ p : Place, p.OnTrack env → ∀ goal', p.scanKey goal' = s.place.scanKey goal →
      s.place.read env goal = p.read env goal' := by
    intro p track goal' key
    simp only [Place.scanKey, ScanKey.mk.injEq] at key
    obtain ⟨offset, rfl, _, _⟩ := key
    rw [track.onePlace h.place offset]
  obtain ⟨scans, scan, known⟩ := scanReads (·.OnTrack env) h.place h.scans told
  exact ⟨scans, scan, h.place, known, h.memo⟩

theorem tracksConsume (token : String) (h : (tracking env).holds s) :
    (tracking env).Step s (consume env token defaultGoal s).2 := by
  obtain ⟨sound, tracks⟩ := h
  obtain ⟨sound', grows⟩ := growsConsume token defaultGoal sound
  obtain ⟨scans, scan, known⟩ := tracks.afterScan defaultGoal
  suffices (consume env token defaultGoal s).2.Tracks env ∧
      ∃ tokens, s.Lexes env tokens (consume env token defaultGoal s).2 from ⟨⟨sound', this.1⟩, grows, this.2⟩
  have still : ∀ found, (({ s with scans := scans } : Session).expect token found).Tracks env ∧
      ∃ tokens, s.Lexes env tokens (({ s with scans := scans } : Session).expect token found) :=
    fun _ => ⟨⟨known.place, known.scans, known.memo⟩, [], Returned.lexesNothing ⟨rfl, rfl, rfl, rfl, rfl, rfl⟩⟩
  simp only [consume, scan]
  cases found : s.place.read env defaultGoal with
  | token t next =>
    simp only
    split
    · have reads := Place.Reads.singleToken found
      refine ⟨Tracks.pushChild ?_ _, [t], Lexes.pushChild ⟨reads, rfl, ?_⟩ _⟩
      · exact ⟨tracks.place.afterReads reads, known.scans, known.memo⟩
      have takes : s.taken.length = s.state.tokenIndex := sound.takenLength
      show (s.taken ++ [_]).take (s.state.tokenIndex + 1) = _
      rw [List.take_of_length_le (by rw [List.length_append, takes]; exact Nat.le_refl _)]
      rfl
    · exact still _
  | ended cursor => exact still _
  | unrecognized cursor c => exact still _

theorem Tracks.whenOpened {name : String} (h : s.Tracks env) (miss : s.remembered env name = none) :
    (opened env name s (s.asked env name)).Tracks env := by
  obtain ⟨log, eq⟩ := openedAsUpdate env name s (s.asked env name)
  rw [eq]
  exact ⟨h.place, h.scans, fun e member => h.memo e (askedEntries miss ▸ member)⟩

theorem Lexes.successTracks {name : String} (sound : s.Sound env) (tracks : s.Tracks env)
    (lexes : s.Lexes env tokens t) : (successOf name s t).Tracks env (MemoKey.of name s.state) := by
  intro p track key
  obtain rfl : p = s.place := track.onePlace tracks.place (congrArg MemoKey.offset key)
  refine ⟨tokens, s.state.tokenIndex, lexes.reads, ?_⟩
  show t.taken.drop s.state.tokenIndex = _
  rw [lexes.taken, List.drop_left' sound.takenLength]

theorem tracksClosed {name : String} (verdict : Verdict) (h : (tracking env).holds s)
    (step : (tracking env).Step (opened env name s (s.asked env name)) t) :
    (tracking env).Step s (closed env name s (verdict, t)).2 := by
  obtain ⟨sound, tracks⟩ := h
  obtain ⟨⟨sound', tracks'⟩, ⟨g, grows⟩, tokens, lexes⟩ := step
  obtain ⟨after, along⟩ := growsClosed verdict sound ⟨sound', g, grows⟩
  have framed := grows.framedByRule
  have inner : s.Lexes env tokens t := by
    obtain ⟨reads, index, taken⟩ := lexes
    rw [place, openedState] at reads
    rw [openedState] at index
    rw [Session.taken, Session.taken, openedState, openedTokens] at taken
    exact ⟨reads, index, taken⟩
  suffices (closed env name s (verdict, t)).2.Tracks env ∧
      ∃ tokens, s.Lexes env tokens (closed env name s (verdict, t)).2 from ⟨⟨after, this.1⟩, along, this.2⟩
  cases verdict with
  | ok =>
    obtain ⟨stats, log, eq⟩ := closedOk env name s t framed.inFrame
    rw [eq]
    refine ⟨Tracks.pushChild ?_ _, tokens, Lexes.pushChild ?_ _⟩
    · refine ⟨tracks'.place, tracks'.scans, fun e member => ?_⟩
      rcases memRemembering member with rfl | old
      · exact inner.successTracks sound tracks
      · exact tracks'.memo e old
    · exact ⟨inner.reads, inner.index, inner.taken⟩
  | mismatch =>
    obtain ⟨log, eq⟩ := closedMismatch env name s t
    rw [eq]
    have back := framed.returnedByCut sound.index (max s.highWater t.highWater) (s.furthest.merge t.furthest)
      (remembering env t.memo (MemoKey.of name s.state) (failureOf s t)) log
    refine ⟨tracks.afterReturn back tracks'.scans fun e member => ?_, [], back.lexesNothing⟩
    rcases memRemembering member with rfl | old
    · trivial
    · exact tracks'.memo e old
  | fatal error =>
    obtain ⟨log, eq⟩ := closedFatal env name s t error
    rw [eq]
    have back := framed.returnedByCut sound.index (max s.highWater t.highWater) (s.furthest.merge t.furthest) t.memo log
    exact ⟨tracks.afterReturn back tracks'.scans tracks'.memo, [], back.lexesNothing⟩

theorem trackingNested (env : Setup) : (tracking env).Nested env where
  refl := fun s => ⟨(growingUpheld env).refl s, [], Returned.lexesNothing ⟨rfl, rfl, rfl, rfl, rfl, rfl⟩⟩
  trans := by
    rintro s t u ⟨st, _, first⟩ ⟨tu, _, later⟩
    exact ⟨(growingUpheld env).trans st tu, _, first.trans later⟩
  scan := by
    rintro s goal ⟨sound, tracks⟩
    obtain ⟨sound', grows⟩ := (growingUpheld env).scan goal sound
    obtain ⟨scans, scan, known⟩ := tracks.afterScan goal
    rw [scan] at sound' grows ⊢
    exact ⟨⟨sound', known⟩, grows, [], Returned.lexesNothing ⟨rfl, rfl, rfl, rfl, rfl, rfl⟩⟩
  rewound := by
    rintro s t ⟨sound, tracks⟩ ⟨⟨sound', tracks'⟩, ⟨g, grows⟩, _⟩
    have back := grows.returnedByRewind sound
    obtain ⟨after, along⟩ := growsRewound sound ⟨sound', g, grows⟩
    exact ⟨⟨after, tracks.afterReturn back (rewindScans t s.mark ▸ tracks'.scans) (rewindMemo t s.mark ▸ tracks'.memo)⟩,
      along, [], back.lexesNothing⟩
  isolated := fun h => ⟨(growingUpheld env).isolated h.1, h.2.place, h.2.scans, h.2.memo⟩
  rejoined := by
    rintro s t ⟨sound, _⟩ ⟨⟨sound', tracks'⟩, grows, tokens, lexes⟩
    obtain ⟨after, along⟩ := (growingUpheld env).rejoined sound ⟨sound', grows⟩
    exact ⟨⟨after, tracks'.place, tracks'.scans, tracks'.memo⟩, along, tokens, lexes.reads, lexes.index, lexes.taken⟩
  opened := fun h miss => ⟨h.1.whenOpened miss, h.2.whenOpened miss⟩
  closed := tracksClosed

theorem tracksAnswer {rules : Rules} {depth : Nat} {task : Task} {first : Session} {name : String} {memo : Memo}
    (answers : Answers env rules depth task first name s memo) (h : (tracking env).holds s)
    (cache : Cache MemoKey Memo) (log : List Message) (subset : ∀ e ∈ cache.entries, e ∈ s.memo.entries) :
    (tracking env).Step s (({ s with memo := cache, log := log } : Session).replay memo).2 := by
  obtain ⟨sound, tracks⟩ := h
  obtain ⟨after, along⟩ := growsAnswer answers sound cache log subset
  have known : ∀ e ∈ cache.entries, e.2.Tracks env e.1 := fun e member => tracks.memo e (subset e member)
  suffices (({ s with memo := cache, log := log } : Session).replay memo).2.Tracks env ∧
      ∃ tokens, s.Lexes env tokens (({ s with memo := cache, log := log } : Session).replay memo).2 from
    ⟨⟨after, this.1⟩, along, this.2⟩
  cases memo with
  | success stop node tokens attempt =>
    obtain ⟨read, first, reads, rfl⟩ := tracks.memo _ answers.memoStored s.place tracks.place rfl
    simp only [replay, replayAttempt]
    refine ⟨Tracks.pushChild ?_ _, read, Lexes.pushChild ⟨reads, ?_, ?_⟩ _⟩
    · exact ⟨tracks.place.afterReads reads, tracks.scans, known⟩
    · exact congrArg (s.state.tokenIndex + ·) (lengthRenumber first read)
    show (s.taken ++ renumber s.state.tokenIndex (renumber first read)).take
      (s.state.tokenIndex + (renumber first read).length) = _
    rw [renumberRenumber, lengthRenumber]
    refine List.take_of_length_le ?_
    rw [List.length_append, sound.takenLength, lengthRenumber]
  | failure attempt => exact ⟨⟨tracks.place, tracks.scans, known⟩, [], Place.Reads.nil, rfl, (List.append_nil _).symm⟩

end Session
end Packrat
