import Packrat.Proofs.Reading
import Packrat.Proofs.Session.Invocation

/-! What every operation keeps. A settled session stands at a place of the source and knows only what belongs
there; an operation leads to a settled session that extends it. -/
namespace Packrat

def ScansTrue (env : Setup) (scans : List (ScanKey × Scan)) : Prop :=
  ∀ p : Place, p.Stands env → ∀ goal found, (p.scanKey goal, found) ∈ scans → found = p.read env goal

def Memo.Fits (env : Setup) (key : MemoKey) : Memo → Prop
  | .success stop _ tokens attempt =>
    stop.place.Stands env ∧ attempt.recoveries.length + key.offset ≤ stop.offset ∧
      (stop.place.key key.rule = key ∧ tokens = [] ∨ key.offset < stop.offset ∧ tokens ≠ [])
  | .failure attempt => attempt.recoveries = []

structure Session.Settled (env : Setup) (s : Session) : Prop where
  stands : s.place.Stands env
  index : s.state.tokenIndex ≤ s.tokens.length
  active : s.active = s.ruleStack
  scans : ScansTrue env s.scans
  memo : ∀ e ∈ s.memo.entries, e.2.Fits env e.1

def State.Precedes (s t : State) : Prop :=
  t = s ∨ s.offset < t.offset ∧ s.tokenIndex < t.tokenIndex

namespace State.Precedes

theorem trans {s t u : State} (st : s.Precedes t) (tu : t.Precedes u) : s.Precedes u := by
  rcases st with rfl | st
  · exact tu
  · rcases tu with rfl | tu
    · exact .inr st
    · exact .inr ⟨Nat.lt_trans st.1 tu.1, Nat.lt_trans st.2 tu.2⟩

theorem indexLe {s t : State} (h : s.Precedes t) : s.tokenIndex ≤ t.tokenIndex := by
  rcases h with rfl | h
  · exact Nat.le_refl _
  · exact Nat.le_of_lt h.2

theorem placeLeads {s t : State} (h : s.Precedes t) : s.place.Leads t.place := by
  rcases h with rfl | h
  · exact .inl rfl
  · exact .inr h.1

end State.Precedes

structure View.Extends (v w : View) : Prop where
  stack : w.ruleStack = v.ruleStack
  active : w.active = v.active
  levels : ∃ nodes, w.levels = (v.children ++ nodes) :: v.levels.tail
  tokens : w.tokens.take v.state.tokenIndex = v.tokens.take v.state.tokenIndex
  recoveries : v.recoveries <+: w.recoveries
  ahead : v.state.Precedes w.state
  paid : w.recoveries.length + v.state.offset ≤ v.recoveries.length + w.state.offset

namespace Session

abbrev Extends (s t : Session) : Prop := s.view.Extends t.view

theorem Extends.refl (s : Session) : s.Extends s where
  stack := rfl
  active := rfl
  levels := ⟨[], by rw [List.append_nil, viewChildren]; exact s.levelsByChildren⟩
  tokens := rfl
  recoveries := List.prefix_refl _
  ahead := .inl rfl
  paid := Nat.le_refl _

theorem Extends.trans {s t u : Session} (st : s.Extends t) (tu : t.Extends u) : s.Extends u where
  stack := tu.stack.trans st.stack
  active := tu.active.trans st.active
  levels := by
    obtain ⟨first, hfirst⟩ := st.levels
    obtain ⟨more, hmore⟩ := tu.levels
    refine ⟨first ++ more, ?_⟩
    rw [hmore, View.children, hfirst]
    simp
  tokens := by
    have le := st.ahead.indexLe
    have cut := congrArg (List.take s.view.state.tokenIndex) tu.tokens
    simp only [List.take_take, Nat.min_eq_left le] at cut
    exact cut.trans st.tokens
  recoveries := st.recoveries.trans tu.recoveries
  ahead := st.ahead.trans tu.ahead
  paid := by
    have := st.paid
    have := tu.paid
    omega

structure Returned (s t : Session) : Prop where
  state : t.state = s.state
  levels : t.levels = s.levels
  stack : t.ruleStack = s.ruleStack
  active : t.active = s.active
  tokens : t.tokens.take s.state.tokenIndex = s.tokens.take s.state.tokenIndex
  recoveries : t.recoveries = s.recoveries

theorem Extends.returnedByRewind {s t : Session} (h : s.Extends t) : s.Returned (t.rewind s.mark) := by
  have view := rewindView t s.mark
  simp only [Session.view, View.mk.injEq] at view
  obtain ⟨state, levels, stack, active, tokens, recoveries⟩ := view
  refine ⟨state, ?_, stack.trans h.stack, active.trans h.active, ?_, ?_⟩
  · obtain ⟨nodes, extended⟩ := h.levels
    rw [viewChildren] at extended
    have children : t.children = s.children ++ nodes := by
      have := t.levelsByChildren
      rw [show t.levels = _ from extended] at this
      exact (List.cons.inj this).1.symm
    have outer : t.levels.tail = s.levels.tail := by
      rw [show t.levels = _ from extended]
      rfl
    rw [levels, children, outer, mark, List.take_left]
    exact s.levelsByChildren.symm
  · rw [tokens]
    exact h.tokens
  · obtain ⟨more, eq⟩ := h.recoveries
    rw [recoveries, show t.recoveries = _ from eq.symm]
    exact List.take_left

theorem Returned.extendsByNothing {s t : Session} (h : s.Returned t) : s.Extends t where
  stack := h.stack
  active := h.active
  levels := by
    refine ⟨[], ?_⟩
    rw [List.append_nil, viewChildren]
    exact h.levels.trans s.levelsByChildren
  tokens := h.tokens
  recoveries := by rw [show t.view.recoveries = s.view.recoveries from h.recoveries]
  ahead := .inl h.state
  paid := by
    rw [show t.view.recoveries = s.view.recoveries from h.recoveries,
      show t.view.state = s.view.state from h.state]

theorem Settled.afterRewind {env : Setup} {s t : Session} (hs : s.Settled env) (ht : t.Settled env)
    (h : s.Extends t) : (t.rewind s.mark).Settled env := by
  have back := h.returnedByRewind
  refine ⟨?_, ?_, ?_, ?_, ?_⟩
  · rw [place, back.state]
    exact hs.stands
  · have kept := congrArg List.length back.tokens
    have := hs.index
    rw [List.length_take, List.length_take] at kept
    rw [back.state]
    omega
  · rw [back.active, back.stack]
    exact hs.active
  · rw [rewindScans]
    exact ht.scans
  · rw [rewindMemo]
    exact ht.memo

theorem scanKept (kept : ScanKey → Scan → Prop) {env : Setup} {s : Session} {goal : Goal}
    (known : ∀ e ∈ s.scans, kept e.1 e.2)
    (read : kept (s.scanKey goal) (env.lexer.readToken env.source s.state.cursor goal s.state.prev)) :
    ∃ found scans, s.scan env goal = (found, { s with scans := scans }) ∧ kept (s.scanKey goal) found ∧
      ∀ e ∈ scans, kept e.1 e.2 := by
  unfold Session.scan
  split
  · rename_i found before
    have member : (s.scanKey goal, found) ∈ s.scans := by
      obtain ⟨newer, older, eq, _⟩ := List.lookup_eq_some_iff.mp before
      rw [eq]
      exact List.mem_append_right _ List.mem_cons_self
    exact ⟨found, s.scans, rfl, known _ member, known⟩
  · exact ⟨_, _, rfl, read, List.forall_mem_cons.mpr ⟨read, known⟩⟩

theorem scanReads (met : Place → Prop) {env : Setup} {s : Session} {goal : Goal} (here : met s.place)
    (known : ∀ p, met p → ∀ goal found, (p.scanKey goal, found) ∈ s.scans → found = p.read env goal)
    (told : ∀ p, met p → ∀ goal', p.scanKey goal' = s.place.scanKey goal → s.place.read env goal = p.read env goal') :
    ∃ scans, s.scan env goal = (s.place.read env goal, { s with scans := scans }) ∧
      ∀ p, met p → ∀ goal found, (p.scanKey goal, found) ∈ scans → found = p.read env goal := by
  obtain ⟨found, scans, scan, same, known⟩ := scanKept
    (fun key found => ∀ p, met p → ∀ goal', p.scanKey goal' = key → found = p.read env goal')
    (fun e member p side goal' key => known p side goal' e.2 (key ▸ member)) told
  refine ⟨scans, ?_, fun p side goal' found member => known _ member p side goal' rfl⟩
  rw [scan, same s.place here goal rfl]

theorem Settled.afterScan {env : Setup} {s : Session} (h : s.Settled env) (goal : Goal) :
    ∃ scans, s.scan env goal = (s.place.read env goal, { s with scans := scans }) ∧
      ScansTrue env scans := by
  refine scanReads (·.Stands env) h.stands h.scans fun p stands goal' key => ?_
  simp only [Place.scanKey, ScanKey.mk.injEq] at key
  obtain ⟨offset, rfl, prev, depth⟩ := key
  rw [stands.onePlace h.stands offset prev depth]

theorem Settled.afterCommit {env : Setup} {s : Session} (h : s.Settled env) {t : Token} {next : Cursor}
    (stands : next.Stands env.source) : (s.commit t next).Settled env where
  stands := stands
  index := by
    have := h.index
    simp only [Session.commit, List.length_append, List.length_take, List.length_singleton, State.after]
    omega
  active := h.active
  scans := h.scans
  memo := h.memo

theorem Settled.extendsCommit {env : Setup} {s : Session} (h : s.Settled env) {t : Token} {next : Cursor}
    (further : s.state.offset < next.offset) : s.Extends (s.commit t next) where
  stack := rfl
  active := rfl
  levels := (Extends.refl s).levels
  tokens := by
    have : (s.tokens.take s.state.tokenIndex).length = s.state.tokenIndex := by
      rw [List.length_take]
      exact Nat.min_eq_left h.index
    show (s.tokens.take s.state.tokenIndex ++ _).take s.state.tokenIndex = _
    rw [List.take_append_of_le_length (by omega), List.take_take, Nat.min_self]
    rfl
  recoveries := List.prefix_refl _
  ahead := .inr ⟨further, Nat.lt_succ_self _⟩
  paid := by
    show s.recoveries.length + s.state.offset ≤ s.recoveries.length + next.offset
    omega

theorem Settled.pushChild {env : Setup} {s : Session} (h : s.Settled env) (node : Tree) :
    (s.pushChild node).Settled env := by
  have view := pushChildView s node
  simp only [Session.view, View.mk.injEq] at view
  obtain ⟨state, _, stack, active, tokens, _⟩ := view
  refine ⟨?_, ?_, ?_, ?_, ?_⟩
  · rw [place, state]
    exact h.stands
  · rw [state, tokens]
    exact h.index
  · rw [active, stack]
    exact h.active
  · rw [pushChildScans]
    exact h.scans
  · rw [pushChildMemo]
    exact h.memo

theorem extendsPushChild (s : Session) (node : Tree) : s.Extends (s.pushChild node) := by
  have refl := Extends.refl s
  unfold Extends
  rw [pushChildView]
  exact ⟨refl.stack, refl.active, ⟨[node], by rw [viewChildren]; rfl⟩, refl.tokens, refl.recoveries,
    refl.ahead, refl.paid⟩

end Session
end Packrat
