import AccountPortal.Proofs.Account.Change
import AccountPortal.Proofs.Rows
import AccountPortal.Proofs.Twin.Portals

/-!
# What a call has a say in

Every call is made on one table, but for the purge of the four ledgers. It has a say in the rows of
that table alone, with two exceptions: who creates a user, and who verifies one, has a say in the
nodes too (`Call.reach`). So of tables that are the same in some group `G`

* a call that reaches into the group makes tables that are the same there (`agrees_of_concerns`),
  with the same answer if it is made on the group;
* any other call leaves them the same there (`sameOn_of_effect`).

The nodes need more than their own rows: a user is verified if there is one. So where the nodes are
the same, so are the ids and the addresses of the users.
-/

namespace AccountPortal

/-! ## Reach -/

/-- A request that decides whose nodes are told of a verification, now or later. -/
def Accounts.Request.reachesNodes : Accounts.Request → Bool
  | .create .. | .verifyEmail _ => true
  | _ => false

namespace Call

/-- The table that a call is made on. -/
def table? : Call → Option TableName
  | .accounts _ => some .users
  | .sessions _ => some .sessions
  | .emailTokens _ => some .emailVerifications
  | .identityLinks _ => some .oauthLinks
  | .oauthStates _ => some .oauthStates
  | .enrollments _ => some .enrollments
  | .wallets _ => some .wallets
  | .passkeyChallenges _ => some .passkeyChallenges
  | .passkeyCredentials _ => some .passkeyCredentials
  | .purgeExpired => none

/-- The tables that a call has a say in. -/
def reach : Call → List TableName
  | .accounts r => if r.reachesNodes then [.users, .enrollments] else [.users]
  | .purgeExpired => [.sessions, .emailVerifications, .oauthStates, .passkeyChallenges]
  | c => c.table?.toList

def isOn (G : List TableName) (c : Call) : Bool := c.table?.any G.contains

def concerns (G : List TableName) (c : Call) : Bool := c.reach.any G.contains

end Call

/-- What a caller is handed; the number of nodes is told to the log alone. -/
def Answer.value : Answer → Answer
  | .verified user _ => .verified user 0
  | a => a

/-- How many rows of a table the purge of the four ledgers removed. -/
def Answer.removed : Answer → TableName → Nat
  | .purged n _ _ _, .sessions => n
  | .purged _ n _ _, .emailVerifications => n
  | .purged _ _ n _, .oauthStates => n
  | .purged _ _ _ n, .passkeyChallenges => n
  | _, _ => 0

/-- Answers that are the same as far as a group of tables goes. -/
structure Call.AlikeOn (G : List TableName) (c : Call) (a a' : Answer) : Prop where
  stage : a'.stage = a.stage
  value : c.isOn G = true → a'.value = a.value
  removed : ∀ n ∈ G, a'.removed n = a.removed n

theorem Call.AlikeOn.refl {G : List TableName} {c : Call} (a : Answer) : c.AlikeOn G a a :=
  ⟨rfl, fun _ => rfl, fun _ _ => rfl⟩

/-! ## Tables -/

def User.name (u : User) : String × String := (u.userId, u.email)

/-- Tables that are the same in a group. -/
structure Tables.SameOn (G : List TableName) (t t' : Tables) : Prop where
  users : .users ∈ G → t'.users = t.users
  names : .enrollments ∈ G → t'.users.map User.name = t.users.map User.name
  sessions : .sessions ∈ G → t'.sessions = t.sessions
  emailTokens : .emailVerifications ∈ G → t'.emailTokens = t.emailTokens
  identityLinks : .oauthLinks ∈ G → t'.identityLinks = t.identityLinks
  oauthStates : .oauthStates ∈ G → t'.oauthStates = t.oauthStates
  enrollments : .enrollments ∈ G → t'.enrollments = t.enrollments
  wallets : .wallets ∈ G → t'.wallets = t.wallets
  passkeyCredentials : .passkeyCredentials ∈ G → t'.passkeyCredentials = t.passkeyCredentials
  passkeyChallenges : .passkeyChallenges ∈ G → t'.passkeyChallenges = t.passkeyChallenges

namespace Tables

variable {G : List TableName} {t t' : Tables}

theorem SameOn.refl (t : Tables) : SameOn G t t :=
  ⟨fun _ => rfl, fun _ => rfl, fun _ => rfl, fun _ => rfl, fun _ => rfl, fun _ => rfl,
    fun _ => rfl, fun _ => rfl, fun _ => rfl, fun _ => rfl⟩

theorem SameOn.contents (h : SameOn G t t') {n : TableName} (hn : n ∈ G) :
    t'.contents n = t.contents n := by
  unfold Tables.contents
  cases n with
  | users => rw [h.users hn]
  | sessions => rw [h.sessions hn]
  | emailVerifications => rw [h.emailTokens hn]
  | oauthLinks => rw [h.identityLinks hn]
  | oauthStates => rw [h.oauthStates hn]
  | enrollments => rw [h.enrollments hn]
  | wallets => rw [h.wallets hn]
  | passkeyCredentials => rw [h.passkeyCredentials hn]
  | passkeyChallenges => rw [h.passkeyChallenges hn]

end Tables

/-! ## Requests on the accounts -/

namespace Accounts

variable {ctx : Context} {G : List TableName} {users users' : List User}
  {nodes nodes' : List Enrollment}

/-- Users and nodes that are the same in a group. -/
structure SameOn (G : List TableName) (s s' : List User × List Enrollment) : Prop where
  users : .users ∈ G → s'.1 = s.1
  names : .enrollments ∈ G → s'.1.map User.name = s.1.map User.name
  nodes : .enrollments ∈ G → s'.2 = s.2

theorem any_taken_congr (names : users'.map User.name = users.map User.name) (id email : String) :
    (users'.any fun u => u.userId == id || u.email == email) =
      users.any fun u => u.userId == id || u.email == email := by
  have asNames (l : List User) : (l.any fun u => u.userId == id || u.email == email) =
      (l.map User.name).any fun e => e.1 == id || e.2 == email := by
    rw [List.any_map]
    rfl
  rw [asNames, asNames, names]

theorem map_find?_congr (names : users'.map User.name = users.map User.name) (id : String) :
    (find? id users').map User.name = (find? id users).map User.name := by
  have asNames (l : List User) :
      (find? id l).map User.name = (l.map User.name).find? fun e => e.1 == id :=
    (Rows.find?_map (q := fun e : String × String => e.1 == id) fun _ _ => rfl).symm
  rw [asNames, asNames, names]

/-- A change that leaves the users their ids and addresses. -/
theorem map_change_congr (names : users'.map User.name = users.map User.name) (id : String)
    {f : User → User} (hf : ∀ u, (f u).name = u.name) :
    (Rows.change (·.userId == id) f users').map User.name =
      (Rows.change (·.userId == id) f users).map User.name := by
  rw [Rows.map_change hf, Rows.map_change hf, names]

section agrees

variable {s s' : List User × List Enrollment} (h : SameOn G s s')
include h

/-- Of users that are the same. -/
theorem agrees_onUsers {c : Call} (same : s'.1 = s.1) (plan : Plan (List User)) :
    Plan.Agrees (SameOn G) (c.AlikeOn G) (Plan.effectOf (.ok (onUsers plan)) s)
      (Plan.effectOf (.ok (onUsers plan)) s') := by
  have made (s : List User × List Enrollment) : Plan.effectOf (.ok (onUsers plan)) s =
      Plan.effectOf ((Except.ok plan).map onUsers) s := rfl
  rw [made, made]
  exact Plan.agrees_on_same (fun _ => rfl) same .refl fun _ => ⟨fun _ => rfl, fun _ => rfl, h.nodes⟩

theorem agrees_create {c : Call} (names : s'.1.map User.name = s.1.map User.name)
    (integers : List Int) (new : User) :
    Plan.Agrees (SameOn G) (c.AlikeOn G)
      (Plan.effectOf (.ok (onUsers (.transaction integers (insert new)))) s)
      (Plan.effectOf (.ok (onUsers (.transaction integers (insert new)))) s') := by
  simp only [onUsers, Plan.on, Plan.effectOf_ok]
  refine Plan.agrees_transaction integers ?_
  simp only [insert, any_taken_congr names]
  split
  · exact .error _
  · refine .ok ⟨fun hG => ?_, fun _ => ?_, h.nodes⟩ (.refl _)
    · show s'.1 ++ [new] = s.1 ++ [new]
      rw [h.users hG]
    · show (s'.1 ++ [new]).map User.name = (s.1 ++ [new]).map User.name
      rw [List.map_append, List.map_append, names]

/-- A user whose id is known is found on both, and so the nodes are told on both. -/
theorem agrees_verifyEmail (names : s'.1.map User.name = s.1.map User.name) (id : String)
    (now : Int) :
    Plan.Agrees (SameOn G) ((Call.accounts (.verifyEmail id)).AlikeOn G)
      (.ok (verifyEmail id now s.1 s.2)) (.ok (verifyEmail id now s'.1 s'.2)) := by
  have found := map_find?_congr names id
  unfold verifyEmail
  cases hu : find? id s.1 with
  | none =>
    rw [hu, Option.map_none, Option.map_eq_none_iff] at found
    rw [found]
    exact .ok ⟨h.users, fun _ => names, h.nodes⟩ (.refl _)
  | some u =>
    rw [hu] at found
    obtain ⟨u', hu', -⟩ := Option.map_eq_some_iff.mp found
    rw [hu']
    refine .ok ⟨fun hG => by rw [h.users hG], fun _ => map_change_congr names id fun _ => rfl,
      fun hG => ?_⟩ ⟨rfl, fun onUsers => ?_, fun n _ => by cases n <;> rfl⟩
    · show (Enrollments.verifyOwner id now s'.2).1 = (Enrollments.verifyOwner id now s.2).1
      rw [h.nodes hG]
    · have hG : .users ∈ G := by simpa [Call.isOn, Call.table?] using onUsers
      rw [h.users hG, hu] at hu'
      cases hu'
      rfl

theorem agrees_of_concerns (r : Request) (hc : (Call.accounts r).concerns G = true) :
    Plan.Agrees (SameOn G) ((Call.accounts r).AlikeOn G) (Plan.effectOf (plan ctx r) s)
      (Plan.effectOf (plan ctx r) s') := by
  have names (reaches : r.reachesNodes = true) : s'.1.map User.name = s.1.map User.name := by
    have hG : .users ∈ G ∨ .enrollments ∈ G := by
      simpa [Call.concerns, Call.reach, reaches] using hc
    rcases hG with hG | hG
    · rw [h.users hG]
    · exact h.names hG
  have same (reaches : r.reachesNodes = false) : s'.1 = s.1 :=
    h.users (by simpa [Call.concerns, Call.reach, reaches] using hc)
  cases r with
  | create id email hash name verified => exact agrees_create h (names rfl) _ _
  | verifyEmail id =>
    simp only [plan, Plan.effectOf_ok, Plan.effect_update]
    split
    · exact agrees_verifyEmail h (names rfl) id ctx.clock
    · exact .error _
  | _ => exact agrees_onUsers h (same rfl) _

end agrees

/-- A request that reaches no further leaves the nodes alone, and the users their names. -/
theorem names_of_effect {a : Answer} (r : Request) (reaches : r.reachesNodes = false)
    (he : Plan.effectOf (plan ctx r) (users, nodes) = .ok ((users', nodes'), a)) :
    users'.map User.name = users.map User.name ∧ nodes' = nodes := by
  have left := nodes_of_effect r he
  have made := answered_of_effect r he
  cases made with
  | create free => cases reaches
  | verifyEmail id nodes => cases reaches
  | get id => exact ⟨rfl, left⟩
  | getByEmail email => exact ⟨rfl, left⟩
  | setPasswordHash id hash => exact ⟨Rows.map_change fun _ => rfl, left⟩
  | setDisplayName id name => exact ⟨Rows.map_change fun _ => rfl, left⟩

end Accounts

/-! ## Calls -/

namespace Call

open Tables

variable {ctx : Context} {G : List TableName} {t t' u : Tables} {a : Answer} {c : Call}

theorem agrees_of_concerns (hc : c.concerns G = true) (h : SameOn G t t') :
    Plan.Agrees (SameOn G) (c.AlikeOn G) (c.effect ctx t) (c.effect ctx t') := by
  cases c with
  | accounts r =>
    refine Plan.agrees_on (R := Accounts.SameOn G) (fun _ => rfl)
      (Accounts.agrees_of_concerns ⟨h.users, h.names, h.enrollments⟩ r hc) fun s s' same => ?_
    exact { h with users := same.users, names := same.names, enrollments := same.nodes }
  | sessions r =>
    have hG : .sessions ∈ G := by simpa [concerns, reach, table?] using hc
    exact Plan.agrees_on_same (fun _ => rfl) (h.sessions hG) .refl
      fun _ => { h with sessions := fun _ => rfl }
  | emailTokens r =>
    have hG : .emailVerifications ∈ G := by simpa [concerns, reach, table?] using hc
    exact Plan.agrees_on_same (fun _ => rfl) (h.emailTokens hG) .refl
      fun _ => { h with emailTokens := fun _ => rfl }
  | identityLinks r =>
    have hG : .oauthLinks ∈ G := by simpa [concerns, reach, table?] using hc
    exact Plan.agrees_on_same (fun _ => rfl) (h.identityLinks hG) .refl
      fun _ => { h with identityLinks := fun _ => rfl }
  | oauthStates r =>
    have hG : .oauthStates ∈ G := by simpa [concerns, reach, table?] using hc
    exact Plan.agrees_on_same (fun _ => rfl) (h.oauthStates hG) .refl
      fun _ => { h with oauthStates := fun _ => rfl }
  | enrollments r =>
    have hG : .enrollments ∈ G := by simpa [concerns, reach, table?] using hc
    exact Plan.agrees_on_same (fun _ => rfl) (h.enrollments hG) .refl
      fun _ => { h with enrollments := fun _ => rfl }
  | wallets r =>
    have hG : .wallets ∈ G := by simpa [concerns, reach, table?] using hc
    exact Plan.agrees_on_same (fun _ => rfl) (h.wallets hG) .refl
      fun _ => { h with wallets := fun _ => rfl }
  | passkeyChallenges r =>
    have hG : .passkeyChallenges ∈ G := by simpa [concerns, reach, table?] using hc
    exact Plan.agrees_on_same (fun _ => rfl) (h.passkeyChallenges hG) .refl
      fun _ => { h with passkeyChallenges := fun _ => rfl }
  | passkeyCredentials r =>
    have hG : .passkeyCredentials ∈ G := by simpa [concerns, reach, table?] using hc
    exact Plan.agrees_on_same (fun _ => rfl) (h.passkeyCredentials hG) .refl
      fun _ => { h with passkeyCredentials := fun _ => rfl }
  | purgeExpired =>
    refine Plan.agrees_update _ ?_ ⟨rfl, ?_, ?_⟩
    · exact { h with
        sessions := fun hG => by rw [Tables.purge, Tables.purge, h.sessions hG]
        emailTokens := fun hG => by rw [Tables.purge, Tables.purge, h.emailTokens hG]
        oauthStates := fun hG => by rw [Tables.purge, Tables.purge, h.oauthStates hG]
        passkeyChallenges := fun hG => by
          rw [Tables.purge, Tables.purge, h.passkeyChallenges hG] }
    · intro onTable
      cases onTable
    · intro n hn
      cases n with
      | sessions => simp only [Tables.purge, Answer.removed, h.sessions hn]
      | emailVerifications => simp only [Tables.purge, Answer.removed, h.emailTokens hn]
      | oauthStates => simp only [Tables.purge, Answer.removed, h.oauthStates hn]
      | passkeyChallenges => simp only [Tables.purge, Answer.removed, h.passkeyChallenges hn]
      | _ => rfl

/-- A call that does not reach into a group leaves it as it was. -/
theorem sameOn_of_effect (hc : c.concerns G = false) (he : c.effect ctx t = .ok (u, a))
    (h : SameOn G t t') : SameOn G u t' := by
  cases c with
  | accounts r =>
    obtain ⟨⟨users, nodes⟩, hr, rfl⟩ := Plan.exists_of_effectOf_on he fun _ => rfl
    cases reaches : r.reachesNodes with
    | true =>
      obtain ⟨hu, hn⟩ : .users ∉ G ∧ .enrollments ∉ G := by
        simpa [concerns, reach, reaches] using hc
      exact { h with
        users := fun taken => absurd taken hu
        names := fun taken => absurd taken hn
        enrollments := fun taken => absurd taken hn }
    | false =>
      have hu : .users ∉ G := by simpa [concerns, reach, reaches] using hc
      obtain ⟨names, left⟩ := Accounts.names_of_effect r reaches hr
      exact { h with
        users := fun taken => absurd taken hu
        names := fun hG => (h.names hG).trans names.symm
        enrollments := fun hG => (h.enrollments hG).trans left.symm }
  | sessions r =>
    have hG : .sessions ∉ G := by simpa [concerns, reach, table?] using hc
    obtain ⟨rows, -, rfl⟩ := Plan.exists_of_effectOf_on he fun _ => rfl
    exact { h with sessions := fun taken => absurd taken hG }
  | emailTokens r =>
    have hG : .emailVerifications ∉ G := by simpa [concerns, reach, table?] using hc
    obtain ⟨rows, -, rfl⟩ := Plan.exists_of_effectOf_on he fun _ => rfl
    exact { h with emailTokens := fun taken => absurd taken hG }
  | identityLinks r =>
    have hG : .oauthLinks ∉ G := by simpa [concerns, reach, table?] using hc
    obtain ⟨rows, -, rfl⟩ := Plan.exists_of_effectOf_on he fun _ => rfl
    exact { h with identityLinks := fun taken => absurd taken hG }
  | oauthStates r =>
    have hG : .oauthStates ∉ G := by simpa [concerns, reach, table?] using hc
    obtain ⟨rows, -, rfl⟩ := Plan.exists_of_effectOf_on he fun _ => rfl
    exact { h with oauthStates := fun taken => absurd taken hG }
  | enrollments r =>
    have hG : .enrollments ∉ G := by simpa [concerns, reach, table?] using hc
    obtain ⟨rows, -, rfl⟩ := Plan.exists_of_effectOf_on he fun _ => rfl
    exact { h with enrollments := fun taken => absurd taken hG }
  | wallets r =>
    have hG : .wallets ∉ G := by simpa [concerns, reach, table?] using hc
    obtain ⟨rows, -, rfl⟩ := Plan.exists_of_effectOf_on he fun _ => rfl
    exact { h with wallets := fun taken => absurd taken hG }
  | passkeyChallenges r =>
    have hG : .passkeyChallenges ∉ G := by simpa [concerns, reach, table?] using hc
    obtain ⟨rows, -, rfl⟩ := Plan.exists_of_effectOf_on he fun _ => rfl
    exact { h with passkeyChallenges := fun taken => absurd taken hG }
  | passkeyCredentials r =>
    have hG : .passkeyCredentials ∉ G := by simpa [concerns, reach, table?] using hc
    obtain ⟨rows, -, rfl⟩ := Plan.exists_of_effectOf_on he fun _ => rfl
    exact { h with passkeyCredentials := fun taken => absurd taken hG }
  | purgeExpired =>
    obtain ⟨hs, he', ho, hp⟩ : .sessions ∉ G ∧ .emailVerifications ∉ G ∧ .oauthStates ∉ G ∧
        .passkeyChallenges ∉ G := by
      simpa [concerns, reach] using hc
    obtain ⟨-, rfl, -⟩ := Plan.effect_update_eq_ok_iff.mp he
    exact { h with
      sessions := fun taken => absurd taken hs
      emailTokens := fun taken => absurd taken he'
      oauthStates := fun taken => absurd taken ho
      passkeyChallenges := fun taken => absurd taken hp }

end Call

end AccountPortal
