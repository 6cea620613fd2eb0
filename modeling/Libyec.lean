import Libyec.RustPrim
import Libyec.BlockHeight
import Libyec.Consensus
import Libyec.ForHeight
import Libyec.Verifier
import Libyec.VerifierRun
import Libyec.Multipack
