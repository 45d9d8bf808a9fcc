import PriceLadder.Approximation
import PriceLadder.Json.Forms
import PriceLadder.Ladder.Approximate
import PriceLadder.Ladder.Spacing
import PriceLadder.Proofs.Binary64.Decade
import PriceLadder.Proofs.Curve.Division
import PriceLadder.Proofs.Curve.Refinement
import PriceLadder.Proofs.Curve.Wrapping
import PriceLadder.Proofs.Ladder.Acceptance
import PriceLadder.Proofs.Ladder.Around
import PriceLadder.Proofs.Ladder.Bands
import PriceLadder.Proofs.Ladder.Clamping
import PriceLadder.Proofs.Ladder.Closest
import PriceLadder.Proofs.Ladder.Covering
import PriceLadder.Proofs.Ladder.Drift
import PriceLadder.Proofs.Ladder.Inverse
import PriceLadder.Proofs.Ladder.Policy
import PriceLadder.Proofs.Ladder.Similarity
import PriceLadder.Proofs.Ladder.Steps
import PriceLadder.Proofs.Ladder.Widening
import PriceLadder.Proofs.Logarithm
import PriceLadder.Proofs.Price.Arithmetic
import PriceLadder.Proofs.Price.Nearest
import PriceLadder.Proofs.Price.Respelling
import PriceLadder.Proofs.Price.RoundTrip
import PriceLadder.Proofs.Price.Text
import PriceLadder.Proofs.Price.Value
import PriceLadder.Proofs.Settings.Environment
import PriceLadder.Settings.Document
import PriceLadder.Settings.Environment
import PriceLadder.Proofs.Binary64.PowerOfTen
