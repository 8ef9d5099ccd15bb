import ContentCache.Artifact.Document
import ContentCache.Cache
import ContentCache.CommandLine
import ContentCache.Config.Reading
import ContentCache.Main
import ContentCache.Store
import ContentCache.Proofs.Entries
import ContentCache.Proofs.Http.Trail
import ContentCache.Proofs.Content
import ContentCache.Proofs.Digest
import ContentCache.Proofs.Metadata.Calling
import ContentCache.Proofs.Cache.Carrying
import ContentCache.Proofs.Cache.Committing
import ContentCache.Proofs.Cache.ExpectedDigest
import ContentCache.Proofs.Cache.Freshness
import ContentCache.Proofs.Labelling
import ContentCache.Proofs.Cache.Ordering
import ContentCache.Proofs.Cache.Attribution
import ContentCache.Proofs.Heedless
import ContentCache.Proofs.Cache.Verifying
import ContentCache.Proofs.Cache.Balancing
import ContentCache.Proofs.Store.Measuring
import ContentCache.Proofs.Cache.Concealing
import ContentCache.Proofs.Cache.Confining
import ContentCache.Proofs.Cache.Narrating
import ContentCache.Proofs.CommandLine
import ContentCache.Proofs.Content.Resolving
import ContentCache.Proofs.Metadata.Reissuing
import ContentCache.Proofs.Cache.Segmenting
import ContentCache.Proofs.Metadata.Addressing
import ContentCache.Proofs.Cache.Classifying
import ContentCache.Proofs.Cache.Sanitizing
import ContentCache.Proofs.Cache.Respelling
import ContentCache.Proofs.Cache.Succession
import ContentCache.Proofs.Expiring
import ContentCache.Proofs.Cache.Teeing
import ContentCache.Proofs.Content.Reading
import ContentCache.Proofs.Digest.Metering
import ContentCache.Proofs.Metadata.Tagging
