import DesfireSdk.Foundation.Primitives
import DesfireSdk.Security.StandardAes.Steps

/-! The chained CMAC of a message over abstract primitives. -/
namespace DesfireSdk.Security.StandardAes

/-- The last block of the message encrypted under the vector of the message before. -/
def chainedCmac (P : Primitives) (key iv input : Bytes) : Bytes :=
  Session.lastBlock (P.encrypt key iv (cmacBlocks (P.encrypt key (zeros aesBlockSize) (zeros aesBlockSize)) input))

theorem length_chainedCmac (P : Primitives) (key iv input : Bytes) :
    (chainedCmac P key iv input).length = aesBlockSize := by
  have hzero : (P.encrypt key (zeros aesBlockSize) (zeros aesBlockSize)).length = aesBlockSize := by
    rw [P.length_encrypt,length_zeros]
  refine Session.length_lastBlock ?_
  rw [P.length_encrypt]
  exact length_cmacBlocks hzero

/-- A message and the tag behind it are read apart when the tag has a known size. -/
theorem tagged_inj {data data' tag tag' : Bytes} (h : data ++ tag = data' ++ tag')
    (hsize : tag.length = tag'.length) : data = data' ∧ tag = tag' := by
  have hlength : data.length = data'.length := by
    have htotal := congrArg List.length h
    simp only [List.length_append] at htotal
    omega
  exact List.append_inj h hlength

end DesfireSdk.Security.StandardAes
