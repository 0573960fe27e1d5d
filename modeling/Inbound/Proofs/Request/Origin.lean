import Mathlib
import Inbound.Proofs.Request.Views
import Inbound.Proofs.Url.Origin

/-!
# Where the URL of a request leads

The URL of a request is its path with the query, read relative to the URL of its host. As long as
the path does not say itself where it leads, the URL leads to the host. But a path may: one that
begins with two slashes names a host, and the `host` header no longer matters.

## Main results

* `Request.url_leads`: at any moment the URL of a request leads to its host, unless the path
  departs, in which case it would be the same on every host;
* `Request.not_forall_url_sameOrigin`: there are requests whose URL leads to another host.
-/

namespace Inbound

/-- The URL of a head is the path with the query, read relative to the URL of the host. -/
theorem Head.url_eq_some_iff {head : Head} {url : Url} :
    head.url = some url ↔ ∃ host base, head.host = some host ∧
      Url.parse? (head.scheme ++ "://" ++ host) = some base ∧
      base.join? head.relUrl = some url := by
  unfold Head.url Head.urlOf
  cases head.host with
  | none => simp
  | some host =>
    cases hparse : Url.parse? (head.scheme ++ "://" ++ host) with
    | none => simp [hparse]
    | some base => simp [hparse]

namespace Request

variable {head : Head} {payload : Payload} {registry : RegistryId} {runtime : Option RuntimeId}
  {socket : Option SocketId} {looks : List Look} {url : Url}

/-- Whatever has been looked at before, the URL of a request is that of its head. -/
theorem url_lookAll :
    (Request.url ((build head payload registry runtime socket).lookAll looks)).1 = head.url := by
  obtain ⟨hfaithful, hhead⟩ :=
    (faithful_build head payload registry runtime socket).lookAll looks
  rw [hfaithful.url_eq, hhead]
  rfl

/-- Whatever has been looked at before, the URL of a request leads to where its host does. Only the
path may say otherwise, and then the host, with user and port, makes no difference. -/
theorem url_leads
    (h : (Request.url ((build head payload registry runtime socket).lookAll looks)).1 = some url) :
    ∃ host base, head.host = some host ∧ Url.parse? (head.scheme ++ "://" ++ host) = some base ∧
      (base.departs head.relUrl = false → url.SameOrigin base) ∧
      (base.departs head.relUrl = true →
        ∀ authority, (base.moveTo authority).join? head.relUrl = some url) := by
  rw [url_lookAll] at h
  obtain ⟨host, base, hhost, hparse, hjoin⟩ := Head.url_eq_some_iff.mp h
  refine ⟨host, base, hhost, hparse, ?_, ?_⟩
  · intro hlocal
    exact Url.join_of_local (Url.hasPlainHost_parse hparse) hlocal hjoin
  · intro hdeparts authority
    exact (Url.join_of_departs authority hdeparts).trans hjoin

/-- A request to one host for a path that names another one. -/
def misled : Head :=
  { Head.default with
    path := "//[::2]/x"
    rawHeaders := [("host".toUTF8, "[::1]".toUTF8)] }

/-- The URL to which the path of `misled` leads. -/
def misledUrl : Url where
  scheme := "http"
  authority := some ⟨"", none, .ipv6 ⟨[0, 0, 0, 0, 0, 0, 0, 2]⟩, none⟩
  path := .segments ["x"]
  query := none
  fragment := none

theorem url_misled : misled.url = some misledUrl := by
  cbv

/-- The URL of `misled`, looked at after other things. -/
theorem url_leads_misled :
    (Request.url ((build misled .empty 0 none none).lookAll [.host, .relUrl])).1 = some misledUrl ∧
      ∃ host base, misled.host = some host ∧
        Url.parse? (misled.scheme ++ "://" ++ host) = some base ∧
        (base.departs misled.relUrl = false → misledUrl.SameOrigin base) ∧
        (base.departs misled.relUrl = true →
          ∀ authority, (base.moveTo authority).join? misled.relUrl = some misledUrl) := by
  have hurl := (@url_lookAll misled .empty 0 none none [.host, .relUrl]).trans url_misled
  exact ⟨hurl, url_leads hurl⟩

/-- There are requests whose URL leads to another host than the one that they name. -/
theorem not_forall_url_sameOrigin :
    ¬ ∀ (head : Head) (payload : Payload) (registry : RegistryId) (runtime : Option RuntimeId)
      (socket : Option SocketId) (looks : List Look) (url : Url),
      (Request.url ((build head payload registry runtime socket).lookAll looks)).1 = some url →
        ∃ host base, head.host = some host ∧
          Url.parse? (head.scheme ++ "://" ++ host) = some base ∧ url.SameOrigin base := by
  intro hall
  obtain ⟨host, base, hhost, hparse, -, hauthority⟩ :=
    hall misled .empty 0 none none [] misledUrl (url_lookAll.trans url_misled)
  have hmisled : misled.host = some "[::1]" := by cbv
  rw [hmisled] at hhost
  cases hhost
  have hbase : (Url.parse? (misled.scheme ++ "://" ++ "[::1]")).map Url.authority =
      some (some ⟨"", none, .ipv6 ⟨[0, 0, 0, 0, 0, 0, 0, 1]⟩, none⟩) := by cbv
  rw [hparse, Option.map_some, ← hauthority] at hbase
  cases hbase

end Request

end Inbound
