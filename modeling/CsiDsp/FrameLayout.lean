import Mathlib.Data.List.GetD
import Mathlib.Data.Set.Function
import CsiDsp.FrameStream

set_option autoImplicit false

namespace CsiDsp

open Runs CInt

-- The channel and the buffer that the loop of vipre_frame_mode_handler_config
-- writes the entry loop of the address list to.
def frameSlot (channels : List Nat) (number loop : Nat) : Nat × Nat := (channels.getD (loop / number) 0, loop % number)

def writeFrameList (channels : List Nat) (number : Nat) (address : Nat → Nat) (table : Nat → Nat → Nat) (loop : Nat) : Nat → Nat → Nat :=
  let (channel, buffer) := frameSlot channels number loop
  Function.update table channel (Function.update (table channel) buffer (address loop))

def frameMetaEntry : Nat := 11

-- What an accepted list has to be: no later call traps, the entries are the
-- buffers one for one, and none of them is the one with the meta data.
structure DecodesList (config : VipreConfigPar) (handler : SvipreHandler) : Prop where
  channels : activeChannels handler.activeChannle ≠ []
  buffers : 1 ≤ handler.baseBufferInfo.bufferNum
  indices : handler.baseBufferInfo.bufferNum ≤ maxVipreBuffer
  share : handler.baseBufferInfo.bufferNum = config.bufferNum.toNat / (activeChannels handler.activeChannle).length
  runs : ∀ events, ∃ finish, run frameOpStep (frameStream handler) events = some finish
  slots : Set.BijOn (frameSlot (activeChannels handler.activeChannle) handler.baseBufferInfo.bufferNum)
    {loop | loop < config.bufferNum.toNat}
    {slot | slot.1 ∈ activeChannels handler.activeChannle ∧ slot.2 < handler.baseBufferInfo.bufferNum}
  addresses : ∀ loop < config.bufferNum.toNat, ∀ slot,
    frameSlot (activeChannels handler.activeChannle) handler.baseBufferInfo.bufferNum loop = slot →
      handler.baseBufferInfo.bufferAddr slot.1 slot.2 = (config.bufferAddr loop).toNat
  register : handler.frameMetaReg = u32 (config.bufferAddr frameMetaEntry).toNat
  metaApart : ∀ loop < config.bufferNum.toNat, loop ≠ frameMetaEntry

-- The configuration returns, and does so with an error or with a list it has decoded.
def FrameListDecoded (before : SvipreHandler) (config : VipreConfigPar) : Prop :=
  ∃ handler accepted, vipreFrameModeHandlerConfig before config = some (handler, accepted) ∧
    (accepted = true → DecodesList config handler)

section Slots

variable (channels : List Nat) (number : Nat) (distinct : channels.Nodup) (some_ : 0 < number)

include some_

theorem slot_at (rank buffer : Nat) (ranked : rank < channels.length) (below : buffer < number) :
    frameSlot channels number (rank * number + buffer) = (channels[rank], buffer) := by
  have quotient : (rank * number + buffer) / number = rank := by
    rw [Nat.mul_comm, Nat.mul_add_div some_, Nat.div_eq_of_lt below, Nat.add_zero]
  have rest : (rank * number + buffer) % number = buffer := by
    rw [Nat.mul_comm, Nat.mul_add_mod, Nat.mod_eq_of_lt below]
  rw [frameSlot, quotient, rest, List.getD_eq_getElem channels 0 ranked]

omit some_ in
theorem rank_inside (loop : Nat) (inside : loop < channels.length * number) : loop / number < channels.length :=
  Nat.div_lt_of_lt_mul (by rw [Nat.mul_comm]; exact inside)

include distinct

theorem slot_index (loop : Nat) (inside : loop < channels.length * number) :
    (frameSlot channels number loop).1 ∈ channels ∧ (frameSlot channels number loop).2 < number ∧
      channels.idxOf (frameSlot channels number loop).1 * number + (frameSlot channels number loop).2 = loop := by
  have ranked := rank_inside channels number loop inside
  have rank : channels.idxOf channels[loop / number] = loop / number := List.Nodup.idxOf_getElem distinct _ ranked
  rw [frameSlot, List.getD_eq_getElem channels 0 ranked]
  refine ⟨List.getElem_mem ranked, Nat.mod_lt loop some_, ?_⟩
  rw [rank, Nat.mul_comm]
  exact Nat.div_add_mod loop number

theorem slots_bijective : Set.BijOn (frameSlot channels number) {loop | loop < channels.length * number}
    {slot | slot.1 ∈ channels ∧ slot.2 < number} := by
  refine ⟨fun loop inside => ?_, fun loop inside other outside same => ?_, fun slot target => ?_⟩
  · obtain ⟨member, below, -⟩ := slot_index channels number distinct some_ loop inside
    exact ⟨member, below⟩
  · obtain ⟨-, -, first⟩ := slot_index channels number distinct some_ loop inside
    obtain ⟨-, -, second⟩ := slot_index channels number distinct some_ other outside
    rw [same, second] at first
    exact first.symm
  · obtain ⟨channel, buffer⟩ := slot
    obtain ⟨member, below⟩ := target
    have ranked := List.idxOf_lt_length_of_mem member
    refine ⟨channels.idxOf channel * number + buffer, ?_, ?_⟩
    · have whole := Nat.mul_le_mul_right number (Nat.succ_le_of_lt ranked)
      rw [Nat.succ_mul] at whole
      exact Nat.lt_of_lt_of_le (Nat.add_lt_add_left below _) whole
    · rw [slot_at channels number some_ _ buffer ranked below, List.getElem_idxOf ranked]

-- The table after the first entries of the list are written.
theorem frame_list_written (address : Nat → Nat) (table : Nat → Nat → Nat) (count : Nat) (inside : count ≤ channels.length * number) :
    (List.range count).foldl (writeFrameList channels number address) table = fun channel buffer =>
      if channel ∈ channels ∧ buffer < number ∧ channels.idxOf channel * number + buffer < count then
        address (channels.idxOf channel * number + buffer)
      else table channel buffer := by
  induction count with
  | zero => simp
  | succ count ih =>
      obtain ⟨member, below, index⟩ := slot_index channels number distinct some_ count inside
      rw [List.range_succ, List.foldl_append, ih (by omega), List.foldl_cons, List.foldl_nil, writeFrameList]
      generalize frameSlot channels number count = slot at member below index ⊢
      obtain ⟨channel, buffer⟩ := slot
      funext other place
      dsimp only at member below index ⊢
      by_cases here : other = channel ∧ place = buffer
      · obtain ⟨rfl, rfl⟩ := here
        rw [Function.update_self, Function.update_self, index, if_pos ⟨member, below, Nat.lt_succ_self count⟩]
      · have apart : other ∈ channels → place < number → channels.idxOf other * number + place ≠ count := by
          intro listed small same
          apply here
          have ranked := List.idxOf_lt_length_of_mem listed
          have slot := slot_at channels number some_ _ place ranked small
          have other_ := slot_at channels number some_ _ buffer (List.idxOf_lt_length_of_mem member) below
          rw [same, List.getElem_idxOf ranked] at slot
          rw [index, List.getElem_idxOf (List.idxOf_lt_length_of_mem member), slot] at other_
          exact ⟨congrArg Prod.fst other_, congrArg Prod.snd other_⟩
        have untouched (value : Nat) (old : Nat → Nat → Nat) :
            Function.update old channel (Function.update (old channel) buffer value) other place = old other place := by
          by_cases row : other = channel
          · subst row
            rw [Function.update_self, Function.update_of_ne fun same => here ⟨rfl, same⟩]
          · rw [Function.update_of_ne row]
        rw [untouched]
        by_cases covered : other ∈ channels ∧ place < number
        · have differs := apart covered.1 covered.2
          by_cases earlier : channels.idxOf other * number + place < count
          · rw [if_pos ⟨covered.1, covered.2, earlier⟩, if_pos ⟨covered.1, covered.2, by omega⟩]
          · rw [if_neg fun all => earlier all.2.2, if_neg fun all => earlier (by omega)]
        · rw [if_neg fun all => covered ⟨all.1, all.2.1⟩, if_neg fun all => covered ⟨all.1, all.2.1⟩]

end Slots

theorem channels_distinct (actChannel : Nat) : (activeChannels actChannel).Nodup := List.Nodup.filter _ List.nodup_range

theorem frame_table (config : VipreConfigPar) (before handler : SvipreHandler)
    (accepted : vipreFrameModeHandlerConfig before config = some (handler, true)) :
    handler.baseBufferInfo.bufferAddr = fun channel buffer =>
      if channel ∈ activeChannels handler.activeChannle ∧ buffer < handler.baseBufferInfo.bufferNum then
        (config.bufferAddr ((activeChannels handler.activeChannle).idxOf channel * handler.baseBufferInfo.bufferNum + buffer)).toNat
      else before.baseBufferInfo.bufferAddr channel buffer := by
  simp only [vipreFrameModeHandlerConfig] at accepted
  split at accepted
  · cases accepted
  · split at accepted
    · cases accepted
    · split at accepted
      · cases accepted
      · split at accepted
        · cases accepted
        · cases accepted
          rfl

-- The table that the driver keeps is what the loop over the list writes.
theorem frame_list_loop (config : VipreConfigPar) (before handler : SvipreHandler)
    (accepted : vipreFrameModeHandlerConfig before config = some (handler, true)) (some_ : 1 ≤ handler.baseBufferInfo.bufferNum) :
    handler.baseBufferInfo.bufferAddr = (List.range config.bufferNum.toNat).foldl
      (writeFrameList (activeChannels handler.activeChannle) handler.baseBufferInfo.bufferNum fun entry => (config.bufferAddr entry).toNat)
      before.baseBufferInfo.bufferAddr := by
  obtain ⟨number, configured⟩ := frame_configured config before handler accepted
  have distinct := channels_distinct handler.activeChannle
  rw [frame_table config before handler accepted, configured.ring.buffers, configured.total]
  rw [configured.ring.buffers] at some_
  rw [frame_list_written _ number distinct some_ _ _ _ (Nat.le_refl _)]
  funext channel buffer
  by_cases covered : channel ∈ activeChannels handler.activeChannle ∧ buffer < number
  · have ranked := List.idxOf_lt_length_of_mem covered.1
    have whole := Nat.mul_le_mul_right number (Nat.succ_le_of_lt ranked)
    rw [Nat.succ_mul] at whole
    rw [if_pos covered, if_pos ⟨covered.1, covered.2, Nat.lt_of_lt_of_le (Nat.add_lt_add_left covered.2 _) whole⟩]
  · rw [if_neg covered, if_neg fun all => covered ⟨all.1, all.2.1⟩]

theorem configured_decodes (config : VipreConfigPar) (handler : SvipreHandler) (number : Nat)
    (configured : FrameConfigured config handler number)
    (some_ : 0 < number) (few : config.bufferNum.toNat ≤ frameMetaEntry) : DecodesList config handler := by
  have channels : 0 < (activeChannels handler.activeChannle).length := List.length_pos_iff.mpr configured.channels
  have distinct := channels_distinct handler.activeChannle
  refine ⟨configured.channels, ?_, ?_, ?_, fun events => ?_, ?_, fun loop inside slot same => ?_, configured.frameMetaReg,
    fun loop inside => by omega⟩
  · rw [configured.ring.buffers]
    exact some_
  · rw [configured.ring.buffers]
    exact configured.ring.short
  · rw [configured.ring.buffers, configured.total, Nat.mul_div_cancel_left number channels]
  · obtain ⟨finish, ran, -⟩ := sides_run (frameStream handler) number (configured_sides config handler number configured some_) events
    exact ⟨finish, ran⟩
  · rw [configured.ring.buffers, configured.total]
    exact slots_bijective _ number distinct some_
  · rw [configured.total] at inside
    rw [configured.ring.buffers] at same
    obtain ⟨member, below, index⟩ := slot_index _ number distinct some_ loop inside
    rw [same] at member below index
    rw [configured.addresses slot.1 member slot.2 below, index]

theorem active_channels_count : ∀ mask ≤ 7, (activeChannels mask).length ≤ 3 ∧ ((activeChannels mask).length = 3 → mask = 7) := by
  decide

section Accepted

variable (before : SvipreHandler) (config : VipreConfigPar) (narrow : ¬ config.actChannel.toNat > 7)

include narrow

-- A list with no buffer passes every check, or traps when no channel is active.
theorem empty_list_undecoded (empty : config.bufferNum.toNat = 0) : ¬ FrameListDecoded before config := by
  rintro ⟨handler, accepted, done, decodes⟩
  simp only [vipreFrameModeHandlerConfig, if_neg narrow, empty, Nat.zero_mod, Nat.zero_div, ne_eq, not_true_eq_false, if_false,
    gt_iff_lt, Nat.not_lt_zero] at done
  split at done
  · cases done
  · cases done
    exact absurd (decodes rfl).buffers (Nat.not_succ_le_zero 0)

theorem frame_config_answers (some_ : config.bufferNum.toNat ≠ 0) :
    ∃ handler accepted, vipreFrameModeHandlerConfig before config = some (handler, accepted) := by
  cases done : vipreFrameModeHandlerConfig before config with
  | some answer => exact ⟨answer.1, answer.2, rfl⟩
  | none =>
      simp only [vipreFrameModeHandlerConfig, if_neg narrow] at done
      split at done
      · cases done
      · rename_i few
        split at done
        · rename_i empty
          rw [empty] at few
          exact absurd (Nat.le_of_not_lt few) (Nat.not_le_of_gt (Nat.pos_of_ne_zero some_))
        · split at done <;> cases done

-- Only three channels with four buffers each reach the last entry of the list.
theorem frame_list_few (handler : SvipreHandler) (number : Nat) (configured : FrameConfigured config handler number)
    (apart : ¬ (config.actChannel.toNat = 7 ∧ config.bufferNum.toNat = 12)) : config.bufferNum.toNat ≤ frameMetaEntry := by
  obtain ⟨few, all⟩ := active_channels_count config.actChannel.toNat (Nat.le_of_not_lt narrow)
  have limit : maxVipreBuffer = 4 := rfl
  have total := configured.total
  have short := configured.ring.short
  rw [configured.active] at total
  have most := Nat.mul_le_mul few short
  have least := Nat.mul_le_mul_left (activeChannels config.actChannel.toNat).length short
  rw [← total, limit] at most least
  by_contra beyond
  rw [frameMetaEntry] at beyond
  have twelve : config.bufferNum.toNat = 12 := by omega
  rw [twelve] at least
  exact apart ⟨all (by omega), twelve⟩

theorem some_list_decoded (some_ : config.bufferNum.toNat ≠ 0)
    (apart : ¬ (config.actChannel.toNat = 7 ∧ config.bufferNum.toNat = 12)) : FrameListDecoded before config := by
  obtain ⟨handler, accepted, done⟩ := frame_config_answers before config narrow some_
  refine ⟨handler, accepted, done, fun yes => ?_⟩
  subst yes
  obtain ⟨number, configured⟩ := frame_configured config before handler done
  have positive : 0 < number := by
    rcases Nat.eq_zero_or_pos number with none_ | positive
    · have total := configured.total
      rw [none_, Nat.mul_zero] at total
      exact absurd total some_
    · exact positive
  exact configured_decodes config handler number configured positive (frame_list_few config narrow handler number configured apart)

end Accepted

theorem full_list_undecoded (before : SvipreHandler) (config : VipreConfigPar) (seven : config.actChannel.toNat = 7)
    (twelve : config.bufferNum.toNat = 12) : ¬ FrameListDecoded before config := by
  rintro ⟨handler, accepted, done, decodes⟩
  have channels : (activeChannels 7).length = 3 := by decide
  have limit : maxVipreBuffer = 4 := rfl
  simp only [vipreFrameModeHandlerConfig, seven, twelve, channels, limit] at done
  cases done
  exact (decodes rfl).metaApart 11 (by rw [twelve]; decide) rfl

-- Which channel masks and numbers of buffers go wrong: none of the buffers, and
-- all twelve of them.
theorem frame_list_decoded (before : SvipreHandler) (config : VipreConfigPar) : FrameListDecoded before config ↔
    7 < config.actChannel.toNat ∨ config.bufferNum.toNat ≠ 0 ∧ ¬ (config.actChannel.toNat = 7 ∧ config.bufferNum.toNat = 12) := by
  by_cases wide : config.actChannel.toNat > 7
  · refine iff_of_true ?_ (.inl wide)
    rw [FrameListDecoded, vipreFrameModeHandlerConfig, if_pos wide]
    exact ⟨_, false, rfl, fun accepted => by cases accepted⟩
  · constructor
    · intro decoded
      refine .inr ⟨fun empty => ?_, fun both => ?_⟩
      · exact empty_list_undecoded before config wide empty decoded
      · exact full_list_undecoded before config both.1 both.2 decoded
    · intro good
      obtain ⟨some_, apart⟩ := good.resolve_left wide
      exact some_list_decoded before config wide some_ apart

-- All channels with four buffers each use the entry of the meta data as well.
def twelveFrames : VipreConfigPar := { twoFrames with actChannel := 7, bufferNum := 12 }

theorem meta_entry_shared : ¬ ∀ (before : SvipreHandler) (config : VipreConfigPar), FrameListDecoded before config := by
  intro claim
  exact full_list_undecoded zeroVipre twelveFrames rfl rfl (claim zeroVipre twelveFrames)

end CsiDsp
