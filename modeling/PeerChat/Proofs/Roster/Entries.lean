import PeerChat.Peer.Basic
import PeerChat.Proofs.Text.Cut

/-!
The display texts of a roster, written by a peer and read by a client. A name that is one word comes back from its
text, and whoever is blocked is read as anyone else.

* `user?_own`, `user?_peer`: the users that the text of the local user and that of a peer are read as;
* `users_entries`: behind the local user, the users that are read are the peers, in their order;
* `roster_reads_back`: what a client reads from the roster of a peer.
-/

namespace PeerChat

namespace Roster

/-- A name that stands for itself in a roster: one word, which does not mark its user as the local one. -/
structure IsPlain (name : Username) : Prop where
  ne_empty : name ≠ ""
  visible : ∀ c ∈ name.toList, Text.isBlank c = false
  unmarked : isSelfEntry name = false

variable {name : Username}

lemma isSelfEntry_iff (entry : String) : isSelfEntry entry = true ↔ selfMarker.toList <:+: entry.toList :=
  Text.occursIn_iff _ _

lemma isSelfEntry_own (self : Username) : isSelfEntry (self ++ " " ++ selfMarker) = true := by
  rw [isSelfEntry_iff, String.toList_append]
  exact (List.suffix_append _ _).isInfix

/-- The marker of a blocked peer does not mark the local user, whatever it stands behind. -/
lemma isSelfEntry_blocked (h : isSelfEntry name = false) : isSelfEntry (name ++ " " ++ blockedMarker) = false := by
  rw [Bool.eq_false_iff, ne_eq, isSelfEntry_iff] at h ⊢
  intro hmarked
  have hentry : (name ++ " " ++ blockedMarker).toList = name.toList ++ ' ' :: blockedMarker.toList := by simp
  rw [hentry] at hmarked
  rcases Text.infix_of_infix_append_cons (by decide) hmarked with hname | hmarker
  · exact h hname
  · exact absurd ((isSelfEntry_iff blockedMarker).2 hmarker) (by decide)

lemma nameOf?_append (hne : name ≠ "") (hvisible : ∀ c ∈ name.toList, Text.isBlank c = false) (marker : String) :
    nameOf? (name ++ " " ++ marker) = some name := by
  rw [String.append_assoc]
  refine Text.firstWord_append hne hvisible fun c hc => ?_
  rw [String.toList_append] at hc
  rw [← Option.some.inj hc]
  exact Text.isBlank_space

/-- The local user is read from his text. -/
theorem user?_own (hne : name ≠ "") (hvisible : ∀ c ∈ name.toList, Text.isBlank c = false) :
    user? (name ++ " " ++ selfMarker) = some ⟨name, true⟩ := by
  unfold user?
  rw [nameOf?_append hne hvisible, isSelfEntry_own]
  rfl

/-- A peer is read from his text, with the marker and without it. -/
theorem user?_peer (h : IsPlain name) (blocked : Bool) :
    user? (if blocked then name ++ " " ++ blockedMarker else name) = some ⟨name, false⟩ := by
  unfold user?
  cases blocked with
  | true =>
    rw [if_pos rfl, nameOf?_append h.ne_empty h.visible, isSelfEntry_blocked h.unmarked]
    rfl
  | false =>
    have hword : nameOf? (name ++ "") = some name := Text.firstWord_append h.ne_empty h.visible fun c hc => nomatch hc
    rw [String.append_empty] at hword
    rw [if_neg Bool.false_ne_true, hword, h.unmarked]
    rfl

lemma users_peers {online blocked : NameSet} (h : ∀ name ∈ online.names, IsPlain name) :
    users (online.names.map fun peer => if blocked.contains peer then peer ++ " " ++ blockedMarker else peer) =
      online.names.map (⟨·, false⟩) := by
  unfold users
  rw [List.filterMap_map, ← List.filterMap_eq_map]
  exact List.filterMap_congr fun peer hpeer => user?_peer (h peer hpeer) (blocked.contains peer)

/-- Behind the local user, the users of a roster are the peers that are online, in their order. -/
theorem users_entries (self : Username) {online : NameSet} (blocked : NameSet)
    (h : ∀ name ∈ online.names, IsPlain name) :
    users (entries self online blocked) =
      (user? (self ++ " " ++ selfMarker)).toList ++ online.names.map (⟨·, false⟩) := by
  rw [← users_peers h]
  unfold users entries
  rw [List.filterMap_cons]
  cases user? (self ++ " " ++ selfMarker) <;> rfl

/-- Without the local user, the users of a roster are the peers that are online, in their order. -/
theorem filter_users_entries (self : Username) {online : NameSet} (blocked : NameSet)
    (h : ∀ name ∈ online.names, IsPlain name) :
    (users (entries self online blocked)).filter (!·.isSelf) = online.names.map (⟨·, false⟩) := by
  have hpeers : (online.names.map fun name => (⟨name, false⟩ : User)).filter (!·.isSelf) =
      online.names.map (⟨·, false⟩) := by
    rw [List.filter_eq_self]
    intro user huser
    obtain ⟨name, -, rfl⟩ := List.mem_map.1 huser
    rfl
  have hown : (user? (self ++ " " ++ selfMarker)).toList.filter (!·.isSelf) = [] := by
    unfold user?
    rw [isSelfEntry_own]
    cases nameOf? (self ++ " " ++ selfMarker) <;> rfl
  rw [users_entries self blocked h, List.filter_append, hown, hpeers, List.nil_append]

/-- A user who is alone in being marked is the local one. -/
lemma identity?_of_unmarked (self : Username) (names : List Username) :
    identity? (⟨self, true⟩ :: names.map (⟨·, false⟩)) = some self := by
  have hpeers : (names.map fun name => (⟨name, false⟩ : User)).filter (·.isSelf) = [] := by
    rw [List.filter_eq_nil_iff]
    intro user huser
    obtain ⟨name, -, rfl⟩ := List.mem_map.1 huser
    exact Bool.false_ne_true
  unfold identity?
  rw [List.filter_cons_of_pos rfl, hpeers]

end Roster

namespace Peer

/-- **What a peer writes into its roster is what a client reads.** With names that are words, of which no peer's holds
the marker of the local user, the roster is read as the local user and the peers that are online, in ascending order,
whoever of them is blocked, and the local user is known from it. -/
theorem roster_reads_back (p : Peer) (hne : p.name ≠ "") (hvisible : ∀ c ∈ p.name.toList, Text.isBlank c = false)
    (hplain : ∀ name ∈ p.online, Roster.IsPlain name) :
    ∃ names : List Username, names.Pairwise (· < ·) ∧ (∀ name, name ∈ names ↔ name ∈ p.online) ∧
      Roster.users p.roster = ⟨p.name, true⟩ :: names.map (⟨·, false⟩) ∧
        Roster.identity? (Roster.users p.roster) = some p.name := by
  have husers : Roster.users p.roster = ⟨p.name, true⟩ :: p.online.names.map (⟨·, false⟩) := by
    unfold roster
    rw [Roster.users_entries p.name p.blocked hplain, Roster.user?_own hne hvisible]
    rfl
  refine ⟨p.online.names, p.online.sorted, fun _ => Iff.rfl, husers, ?_⟩
  rw [husers]
  exact Roster.identity?_of_unmarked p.name p.online.names

/-- The own name may hold the marker of the local user, and a peer's name may end in the start of it. -/
theorem roster_reads_back_of_odd_names : ∃ p : Peer,
    p.roster = ["(自己) (自己)", "(自 (屏蔽)", "bob"] ∧ p.name ≠ "" ∧
      (∀ c ∈ p.name.toList, Text.isBlank c = false) ∧ (∀ name ∈ p.online, Roster.IsPlain name) ∧
      ∃ names : List Username, names.Pairwise (· < ·) ∧ (∀ name, name ∈ names ↔ name ∈ p.online) ∧
        Roster.users p.roster = ⟨p.name, true⟩ :: names.map (⟨·, false⟩) ∧
          Roster.identity? (Roster.users p.roster) = some p.name := by
  let p : Peer := { ((start "(自己)").join "bob").join "(自" with blocked := NameSet.ofList ["(自", "dave"] }
  have hvisible : ∀ c ∈ p.name.toList, Text.isBlank c = false := Text.visible_of_all (by decide)
  have hnames : p.online.names = ["(自", "bob"] := by decide +kernel
  have hplain : ∀ name ∈ p.online, Roster.IsPlain name := by
    intro name hname
    rw [NameSet.mem_def, hnames] at hname
    rcases List.mem_pair.1 hname with rfl | rfl
    · exact ⟨by decide, Text.visible_of_all (by decide), by decide⟩
    · exact ⟨by decide, Text.visible_of_all (by decide), by decide⟩
  exact ⟨p, by decide +kernel, by decide, hvisible, hplain, roster_reads_back p (by decide) hvisible hplain⟩

end Peer

end PeerChat
