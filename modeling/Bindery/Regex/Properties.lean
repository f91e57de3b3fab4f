/-!
# Unicode properties

The properties a class `\p{Name}` may name: the general categories of Unicode 15.0 (two letters,
such as `Lu`; one letter, such as `L`, for all categories it begins; `LC` for the cased letters;
`Cn` for the unassigned code points), their long names (`Letter`, `Uppercase_Letter`, ...), the
scripts (`Greek`, `Han`, ...), `Any`, `ASCII`, and `Assigned`, the complement of `Cn`. The one
letter category `C` leaves out the unassigned code points. Names are matched without regard to
case, blanks, underscores and hyphens.

A category or script is written as a text of its ranges in increasing order, separated by
blanks, each as the distance of its first code point from the last code point of the range
before (from zero for the first range), followed by `-w` when the range runs `w` code points past
its first, all in base 36; an item `x*n` stands for the item `x` repeated `n` times.
-/

namespace Bindery.Regex

/-- The code points of each two-letter general category, except the unassigned ones. -/
def categoryTable : List (String × String) := [
  ("Cc", "0-v 2o-w"),
  ("Cf", "4t 11v-5 n 5d 1e ap-1 29 2zw 1kt-4 r-4 1e-4 2-9 17yo 6y-2 3b6 g 6zn-f qxt-3 440-7 h407 v-2n"),
  ("Co", "188w-4xr jpc1-1ekd 3-1ekd"),
  ("Cs", "16o0-1kv"),
  ("Ll", "2p-p 1n 16-n 2-7 2*27 2-1 2*7 2-1 2*23 3 2 2-2 3 2 3 4-1 5 3 4-2 3 3 2 2 3 2-1 2 3 4 2 3-1 3-2 7 3 3 2*7 2-1 2*8 2-1 3 2 4 2*28 2-6 3 3-1 2 5 2*3 2-1w 2-q 5e 2 4 4-2 j s-y 2-1 4-2 2*11 2-4 2 3 3-1 1g-1b 2*17 a 2*26 3 2*5 2-1 2*48 1d-14 288-16 3-2 l5-5 1oj-8 3c-17 1s-c 2-x 2v 2*73 2-8 2*48 2-8 9-5 b-7 9-7 9-5 b-7 9-7 9-d 3-7 9-7 9-7 9-4 2-1 7 4-2 2-1 9-3 3-1 9-7 b-2 2-1 7n 4-1 4 s 5 5 3-1 9-3 5 1i 23w-1b 2 4-1 2*3 5 2-1 2-5 6 2*48 2-1 8 2 5 d-11 2 6 nx0 2*22 k 2*13 3s 2*5 2-2 2*31 2-7 2 2 3 2*4 5 2 3 2-2 2*10 6 6 2*7 5 2 7 2*4 t 4 mu-16 6-8 8-27 fnl-6 d-4 tm-p y6-13 3t-z 4c-a 2-e 2-6 2-1 1dw-1e 2by-v gw1-v k2j-p r-6 2-h r-p r-3 2 2-6 2-a r-p*8 r-r t-o 2-5 r-o 2-5 r-o 2-5 r-o 2-5 r-o 2-5 2 1f9-9 2-j 7-5 1yw-x"),
  ("Lm", "j4-h 5-b f-4 8 2 3q 6 db 6f 4l-1 7i-1 5 w a 4 4h 4o yd 3k fq 1cr 30 h0 cx-5 4v-1q e z-10 j6 e h-c 2cg-1 6q 5c d2 18-4 6 2q-1 2m-2 lxz yr-5 7j 37 t-1 3e-8 29 o 2y-2 4-1 d2 n 3u 31 m-1 2w-3 a glj 1a-1 1k1-5 2-15 2-8 jnq-3 uo-c 1t-1 2 cnh-3 2-6 2-1 9iq-1p 5m-6 q6 v4"),
  ("Lo", "4q g 75 5-3 5t n0-q 5-3 1a-v 2-9 10-1 2-2q 2 p-1 b-2 3 h 2-t u-2g c p-w m-l 17-o 8-a 6-n 2-5 i-14 1o-1h 4 j 8-9 h-e 5-7 3-1 3-l 2-6 2 4-3 4 h e-1 2-2 f-1 b 9-5 5-1 3-l 2-6 2-1*3 w-3 2 k-2 h-8 2-2 2-l 2-6 2-1 2-4 4 j g-1 o c-7 3-1 3-l 2-6 2-1 2-4 4 v-1 2-2 g i 2-5 4-2 2-3 4-1 2 2-1 4-1 4-2 4-b n 1h-7 2-2 2-m 2-f 4 r-2 3 3-1 v 5-7 2-2 2-m 2-9 2-4 4 w-1 2-1 g-1 i-8 2-2 2-14 3 h 6-2 9-2 p-5 6-h 4-n 2-8 2 3-6 1n-1b 2-1 d-5 1o-1 2 2-4 2-n 2 2-9 2-1 a 3-4 o-3 x 1s-7 2-z s-4 38-16 l h-5 5-3 4 4-1 8-2 5-c d 36-94 2-3 3-6 2 2-3 3-14 2-3 3-w 2-3 3-6 2 2-3 3-e 2-1k 2-3 3-1u 12-f 36-h7 3-g 2-p 6-22 7-7 8-h e-i f-h f-c 2-2 g-1f 15 1w-y 2-1g 8-4 3-x 2 6-1x b-u 1e-t 3-4 c-17 5-p 1j-m a-1g 4x-1a i-7 1j-t e-1 b-17 r-z 16-2 b-t 36-3 2-5 2-1 4 u3-3 2d4-1j p-m a-6 2-6*7 fc 1i 5-2d 9 2-2h 5 6-16 2-2l i-v 1d-f e9-533 1t-g7o 2-vq 1w-13 9-7f 5-f b-1 1v 1e-1x 4q 2w 4-6 2-2 2-3 2-m u-1f f-1d 1r-5 4 2-1 c-r b-m q-s 8-1a 1a-4 3-8 b-4 2-14 o-2 2-7 l-f 2-5 4 4-1d 2 4-1 3-4 3 2 p-1 4-a 8 f-5 3-5 3-5 a-6 2-6 42-y u-8mb d-m 5-1c 6it-a5 3-2x 1w 2-9 2-c 2-4 2 2-1 2-1 2-2z y-a2 j-1r 3-1h 15-b 39-4 2-3q 2y-9 2-18 3-u 4-5 3-5 3-5 3-2 10-b 2-p 2-i 2-1 2-e 3-d z-3e au-s 4-1c 1c-v e-j 2-7 7-11 b-t 3-z 5-7 3l-25 2r-13 9-1f 4d-8m a-l b-7 49-5 3 2-17 2-1 4 3-m b-m a-u 1u-i 2-1 b-l b-p 1z-1j 7-1 1t g-3 2-2 2-s 17-s 4-s 10-7 2-r s-1h b-l b-i e-h 33-20 54-z 9p-15 7-1 27-s b 9-l 17-h 1b-k s-m d-1g 1m-1 3 e-18 x-o r-z u 3 9-y 4 d-1b f-3 m 2 10-h 2-o k-1 1s-6 2 2-3 2-e 2-9 8-1a 13-7 3-1 3-l 2-6 2-1 2-4 4 j d-4 4f-1g j-3 l-2 v-1b l-1 2 55-1a 16-3 11-1b l 1o-16 e 20-q 12-6 56-17 5w-7 3 3-7 2-1 2-n g 2 2n-7 3-12 h 2 t b-13 8 m c-19 k j-20 7c-8 2-10 i 1e-t 35-6 2-1 2-11 m q-5 2-1 2-v f 94-i g 2-c 2-x 3h 28-pl 6f-5f 219-2o g-tr i-5 33u-g6 6nu-fs 8-u i-26 i-t j-1b 1g-k 6-i oh-22 6 4w-4qf 9-yd 17-8 6wo-82 g u-2 3 f-3 9-az 1s5-2y 6-c 4-8 8-9 6sx dy-18 y 8y-t j-17 dh-q l2-6 2-3 2-1 2-e 2-5g 118-3 2-q 2-1 2 3 2-9 2-3 2 2 7 5 2 2 2-2 2-1 2 3 2*4 2-1 2 3-3 2-6 2-3 2-3 2 2-9 2-g 6-2 2-4 2-g 3et-wyn x-37d 7-65 3-4g1 f-5rk 2e8-f1 15v-3t6 6-38f"),
  ("Lt", "cl 3 3 13 5ue-7 9-7 9-7 d g 1c"),
  ("Lu", "1t-p 2u-m 2-6 y 2*27 3 2*7 3 2*22 2-1 2 2 4-1 2 2-1 2-2 3-3 2-1 2-2 4-1 2-1 2 2 2-1 2 3 2-1 2-2 2 2-1 4 8 3*3 2*7 3 2*8 3 3 2-2 2*29 8-1 2-1 3 2-3 2*4 82 2 4 9 7 2-2 2 2-1 2-g 2-8 10 3-2 4 2*11 6 3 2-1 3-1e 1d 2*16 a 2*26 2-1 2*6 3 2*47 3-11 28a-11 2 6 k3-2d 1p7-16 3-2 8x 2*74 a 2*48 a-7 9-5 b-7 9-7 9-5 c 2*3 9-7 21-3 d-3 d-3 d-4 c-3 7b 5 4-2 3-2 3 4-4 7 2 2 2-3 3-3 b-1 6 1q 22l-1b 1d 2-2 3 2 2 2-3 2 3 9-2 2*49 9 2 5 nym 2*22 k 2*13 3s 2*6 4 2*30 b 2 2-1 2*4 5 2 3 2 4 2*9 2-4 2-4 2*7 2-3 2 7 6 2 t h7w-p xy-13 3t-z 4d-a 2-e 2-6 2-1 1d7-1e 2cu-v gw1-v k2p-p r-p r-p r 2-1 3 3-1 3-3 2-7 r-p r-1 2-3 3-7 2-6 s-1 2-3 2-4 2 4-6 s-p r-p*5 v-o y-o*4 y 3ee-x"),
  ("Mc", "1s3 1k 3-2 9-3 2-1 1f-1 1n-2 7-1 3-1 b 18 1n-2 1v 1n-2 9 2-1 1i-1 1n 2 7-1 3-1 b 2v-1 2-1 4-2 2-2 b 16-2 1q-3 1q-1 1n 2-4 3-1 2-1 a-1 t f-1 1n-2 6-2 2-2 b 17-1 24-2 7-7 j-1 97-1 1s 4s-1 5 7 3-1 q-1 b-2 3-6 m-1 3-5 3 b-2 1a1 v 3m 8-7 2-1 9n-3 3-2 5-1 2-5 69-1 1n 2 a 2-1 9-5 42 1d 6 2-4 2-1 1q v 5-1 3 1p 3-2 2 4-1 1d-7 9-1 4s m 3sn-1 np0-1 3 2h-1 1f-f 3z-1 1c 1d-1 5-1 3-2 33-1 3-1 p 1a 2 32 3-1 6 6m-1 2-1 2-1 2 jro 2 3k 1a-2 5-1 38 p-1 1o 1d-2 a-1 e 2m-2 4-1 2 4r-2 w-1 1n-1 2-3 3-1 3-2 a b-1 5u-2 9-1 4 2z-2 7 2-3 3 6m-2 7-3 3 36-2 9-1 2 32 2-1 7 2y-1 5 7a-2 a 6w-5 2-1 5 3 2 3z-2 9-3 5 2d u-1 1r bc f 2z 8 3 5y-4 5-1 2 9r-1 d 1d-1 9-1 2 ftc-1i 2x-1 j90-1 7-5"),
  ("Me", "w8-1 4dx 17j-3 2-2 qdo-2"),
  ("Mn", "lc-33 7o-4 7e-18 2 2-1 2-1 2 21-a 1d-k h 2u-6 3-5 3-1 2-3 10 v-q 2k-a 1n-8 a p-3 2-8 2-2 2-4 18-2 1p-7 17-n 2-v 1k 2 5-7 5 4-6 b-1 u 1n 5-3 9 l-1 r 3-1 1m 5-1 5-1 3-2 4 v-1 4 c-1 1m 5-4 2-1 5 l-1 n-5 2 1n 3 2-3 9 8-1 c-1 v 1q d 1f 4 1k 2-2 6-2 2-3 8-1 c-1 u 1n 3 7 6-1 l-1 t-1 1m-1 5-3 9 l-1 u 21 8-2 2 2j 3-6 d-7 2r 3-8 c-6 22-1 s 2 2 1k-d 2-4 2-1 6-a 2-z a 2v-3 2-5 2-1 3-1 q-1 5-2 h-3 e 3-1 7 g jk-2 qb-2 u-1 v-1 v-1 1t-1 2-6 9 3-a a 1a-2 2 3a-1 z 3b-2 5-1 a 7-2 64-1 3 1n 2-6 2 2 3-7 7-9 3 1d-d 2-f 1e-3 1d 2-4 2 6 15-8 d-1 x-3 3-1 2-2 1l 2-1 4 2-2 1n-7 3-1 49-2 2-c 2-6 5 7 4-1 5j-1r k1-c 5 4-b 2db-2 3y 2p-v ff-3 30-1 n9x 5-9 x-1 29-1 7l 4 5 q-1 6 48-1 r-h e 13-7 q-a 1b-2 1d 3-3 3-1 14 1w-5 3-1 3-1 d 9 1c 1g 2-2 3-1 6-1 2 17-1 9 6n 3 5 fn5 ki-f h-f r2 6b 46-4 1af-2 2-1 6-3 15-2 5 4m-1 fy-3 as-1 29-2 1z-a 1e-3 3g 1j-e 16 3-1 b-2 1e-3 3-1 8 1q-2 11-4 2-7 1r d-1 1h-8 b-3 3 2o-2 3 2-1 7 3 4e 4-7 m-1 1m-1 4 12-6 4-4 5g-7 3-2 2 o 2d-5 2 5-1 2-1 6n-3 7-1 2-1 s-1 2e-7 3 2-1 2z 2 3-5 2 2u-2 3-3 2-4 78-8 2-1 75-1 2 5 41-3 3-1 5 x-9 15-5 3-3 9 a-5 3-2 1b-c 2-1 bb-6 2-5 2 2b-l 3-6 2-1 2-1 3f-5 4 2-1 2-6 2 21-1 4 2 9o-1 c-1 1h-4 6 2 45a 7-e asb-4 1o-6 t5 1s-3 2a f5l-1 3mq-19 3-m f5-2 i-7 3-6 v-3 45-2 1j0-1i 5-1d 9 f n-4 2-e 11t-6 2-g 3-6 2-1 2-4 2t 4h-6 ag 1q-3 e5-3 rl-6 32-6 gzhy-6n"),
  ("Nd", "1c-9 17r-9 3r-9 5j-9 bh-9 3b-9*9 2p-9 3b-9 1z-9 7r-9 1z-9 1fr-9 13-9 8d-9 3l-9 4n-9 7-9 53-9 2f-9 3r-9 7-9 r7r-9 iv-9 13-9 5j-9 n-9 2f-9 bb-9 gev-9 13b-9 1on-9 ml-9 3l-9 1p-9 41-9 7r-9 9j-9 3b-9 af-9 2v-9 2v-9 br-9 2v-9 l3-9 6v-9 1z-9 br-9 etj-9 2f-9 3r-9 lf9-1d 1tt-9 br-9 dz-9 uv-9 3o7-9"),
  ("Nl", "4j2-2 228-y 3-3 2v3 q-8 f-2 nfw-9 hu9-1g ct 9 3r-4 6cr-32"),
  ("No", "4y-1 6 3-2 1ti-5 ah-5 3d-2 3q-6 62-6 i-8 c2-9 ty-j vo-9 dd 1au 4-5 7-9 5j-f 16 k7-1n 27-l hj-t 12i wl-3 3v-9 v-7 2-e x-9 14-e n75-5 hjm-18 1u-3 i-1 9i-q 11-3 111-7 q-6 14-8 24-4 n-5 4h-1 3-f 3-19 1t-8 1h-1 v-2 24-4 2x-7 p-7 16-6 97-5 9t-u 4f-9 17-3 35-6 3r-j ak-j 11i-1 bz-8 o8-i no-k ex3-6 m7-m jsa-j d-j 31-o 47j-8 pu-1m 2-2 2-3 25-18 2-e qr-c"),
  ("Pc", "2n 6ao-1 k 17tr-1 p-2 6o"),
  ("Pd", "19 125 1g 2te sm 1l6-5 2rm 3 w-1 5 t cf k 34 14lt-1 12 b 4q 334"),
  ("Pe", "15 1g w 2wu 2 1gf 1wq 1k g hn 2 v u7 2*6 29 x 2*4 b9 2*10 1t 2 y ti 2*3 19 2*3 bx 2*4 4 2*3 3-1 14in 62 u 2*7 4 i 2 2 4r 1g w 3 3"),
  ("Pf", "57 672 4 t 2q1 2 5 3 g 4"),
  ("Pi", "4r 67h 3-1 3 q 2q1 2 5 3 g 4"),
  ("Po", "x-2 2-2 3 2 2-1 b-1 4-1 s 1x 6 f-1 8 jj 9 cz-5 16 1j 3 3 19-1 l-1 2-1 e 2-2 23-3 2v 18-d 6i-2 1j-e w 7a-1 b 3x 3d 3e av d a8 2j b-1 4p-e 2 35 23-4 5-1 34-5 4s h1-8 li 3h-2 20-1 4e-2 2-2 12-5 2-3 8q-1 61-1 3l-6 2-5 4t-6 t-1 3i-3 1o-4 1r-1 1t-7 c n7-1 9-7 9-8 3-3 3-2 4-a 2 2-9 2hn-3 2-1 35 40-1 5-2 3 3-8 2-1 2 3-1 b-4 2-9 3-3 2 2-c 3-2 bx-2 1m 5a mwz-1 7i-2 2s b 38-5 al-3 2f-1 15-2 2 1e-1 1c 2q-c h-1 3h-3 3j-1 h-1 6y g85-6 3 n l-1 3-3 4-2 2-3 8-2 7 2-1 46-2 2-2 3 2 2-1 b-1 4-1 s 11 3-1 bf-2 il 1d bj ko 5k w 7l-8 13 35-6 1v-6 2i-3 qh-4 19-3 5a-6 32-1 2-3 3j-3 1d-1 28-3 5 e 2-2 2h-5 30 bm-4 b-1 2 2x 6z-m 2y-2 t-c 25 3n-2 71 7d-2 4c 2l-7 2c-2 2-4 2m-9 8o-4 17-1 hy-1 23-c 4w vl-4 29p-1 bjw-1 3q 1u-4 9 nn-3 94 f5p 5wo-4 2xf-1"),
  ("Ps", "14 1f w 2wv 2 1gf 1vj 4 13 1k g hn 2 v u7 2*6 29 x 2*4 b9 2*10 1t 2 y ti 2*3 q j 2*3 bx 2*4 4 2*3 3 14iq 60 u 2*7 4 i 2 2 4r 1f w 4 3"),
  ("Sc", "10 3i-3 yy 3g dv-1 dv-1 8 6u 7c g6 1wc 1qd-w qrc gxw 31 4b 64-1 4-1 6bb-3 12jj 1wx"),
  ("Sk", "2m 2 20 7 5 4 ei-3 d-d 6-6 2 2-g 3a f-1 zn 4l1 2-2 c-2 e-2 e-2 e-1 3a5-1 ndw-m a-1 2w-1 r5 f-1 fuv-g os 2 4j 1c7s-4"),
  ("Sm", "17 h-2 1q 2 1a 5 12 w lb eo-2 56k e 14-2 e-2 3w 14-4 7 1x-4 6-1 5 3 3 8 w-1 3 2 w-7f x-1 2j v-o 15-5 d2 a 1j-7 34 9d-4 3-u b-f 75-3m n-1q 5-v 3-75 1d-k 3-5 1525 mx 2-2 4l h-2 1q 2 3o 7-3 16fp q w q w q w q w q 4kt-1"),
  ("So", "4m 3 5 2 r6 7f-1 3k-1 5r b k-1 6w ec ae 3n-5 2 3p 5s 16 aw-2 g 2-2 3-5 l 2 2 3q-7 2-5 2-1 6-3 5i-1 kx-9 k4 k3 4e-x 9u-9 a-8 138-1 2-3 2-1 b 2-1 7-5 2*3 5 c-1 f 2-1 2 1n-1 a-4 3-3 2-1 2-1 2-6 2-u 3-1 2 2-u 7h-7 5-j 3-6 3-28 2-t q-13 7-1w q-a 2a-25 n-52 2-8 2-1h 9-32 2-6v 19-17 1t-73 e9-1b m-1 7-12 3-v 2-2w 6e-5 9y-1 1b-p 2-2g d-5x r-b 9 e-1 d m-1 7-1 9d-1 5-9 x-z t-u c-t 9 g-v b-12 g-8v 535-1r h3l-1i o2-3 b-1 2 fy-2 gcn-f 3k 1a-2 dh 4 5-1 e-1 8q-8 1m-g 3-2 2-c 4 1c-18 1a3-1 gg 2gn 1p2-7 5-g evf-3 6 g2f 3p0-37 1p-6t b-12 3-1n 6-2 n-1 8-t 5-1o m-1t 4 57-2e x6-e7 1k-3 1f-7 2-d 2-1 1c9 28t 3m k2-17 5-2r d-e 3-e 2-e 2-10 o-4g 1l-s e-17 5-8 8-1 f-5 4b-6y 6-k7 5-g 4-c 4-3a 5-2m 7-b 5 g-b 5-1j 9-9 7-13 9-t 3-1 27-9f d-d 3-c 4-8 8-19 2-6 9-d 5-8 8-8 8-42 2-1i"),
  ("Zl", "6co"),
  ("Zp", "6cp"),
  ("Zs", "w 3k 4bk 1vk-a 11 1c 335")]

def scriptTable : List (String × String) := [
  ("Adlam", "2olc-23 5-9 5-1"),
  ("Ahom", "1j40-q 3-e 5-m"),
  ("Anatolian_Hieroglyphs", "1s00-g6"),
  ("Arabic", "16o-4 2-5 2-d 2-2 2-v 2-9 c-p 2-2z 2-x 29-1b 6p-u 2-1 7-21 2-s 1bv5-36 h-a2 3-27 3-1h 8 x-f 35-4 2-3q 31g-u 3j-2 181t-3 2-q 2-1 2 3 2-9 2-3 2 2 7 5 2 2 2-2 2-1 2 3 2*4 2-1 2 3-3 2-6 2-3 2-3 2 2-9 2-g 6-2 2-4 2-g 1h-1"),
  ("Armenian", "10x-11 3-1d 3-2 1chw-4"),
  ("Avestan", "1gqo-1h 4-6"),
  ("Balinese", "5c0-24 4-1a"),
  ("Bamum", "www-2f 124p-fs"),
  ("Bassa_Vah", "1zo0-t 3-5"),
  ("Batak", "5hc-1f 9-3"),
  ("Bengali", "1vk-3 2-7 3-1 3-l 2-6 2 4-3 3-8 3-1 3-3 9 5-1 2-4 3-o"),
  ("Bhaiksuki", "1k3k-8 2-18 2-d b-s"),
  ("Bopomofo", "kq-1 93u-16 35-v"),
  ("Brahmi", "1hq8-25 5-z a"),
  ("Braille", "7wg-73"),
  ("Buginese", "54w-r 3-1"),
  ("Buhid", "4lc-j"),
  ("Canadian_Abor\x69ginal", "3y8-hr fl-1x 1ewr-f"),
  ("Carian", "1f34-1c"),
  ("Caucasian_Albanian", "1flc-1f c"),
  ("Chakma", "1hxc-1g 2-h"),
  ("Cham", "xkw-1i a-d 3-9 3-3"),
  ("Cherokee", "3vk-2d 3-5 twz-27"),
  ("Chorasmian", "1ho0-r"),
  ("Common", "0-1s r-5 r-1a 2-e 2-4 o w ci-12 6-4 3-j 39 a 7 2 hq 7 f 4 x 4d ed 3m-1 yi ba-3 83 168-2 20-1 5o-1 2 y6 e 8-3 2-5 2-2 3 li-b 3-2e 2-a 4-a 2-e i-w 1s-11 2-2 3-5 2-q 2-g 16-2 5-ie q-a m-pr 75-hf 3-v 2-2w e9-2l b7-b 5-4 2 2-o g-7 5-3 2k-1 4 2j-1 44-f x-z 1p-1r w-28 1c 2h-4n 535-1r hkx-x 2v-2 4m-9 6t 4h b0 f-1 g5v-1 5t-9 n-y 2-i 2-3 44 2-v r-5 r-a b 1a-1 1t-6 2-6 b-4 77-2 5-18 4-8 29-c 1g-18 6d-q 10o5-3 3ot-37 1p-6t b-12 3-1p 4-g 9-1 8-t 5-1o 5y-j d-j d-2e a-o 3s-2c 2-1y 2-1 3 3-1 3-3 2-b 2 2-6 2-1s 2-3 3-7 2-6 2-r 2-3 2-4 2 4-6 2-9f 3-83 3-1d 41e-1v 25-1o jn-17 5-2r d-e 3-e 2-e 2-10 b-4t 1l-p 2-1 e-17 5-8 8-1 f-5 4b-rb 5-g 4-c 4-3a 5-2m 7-b 5 g-b 5-1j 9-9 7-13 9-t 3-1 27-9f d-d 3-c 4-8 8-19 2-6 9-d 5-8 8-8 8-42 2-1i 12-9 gvm0 v-2n"),
  ("Coptic", "rm-d 80h-37 6-6"),
  ("Cuneiform", "1kw0-pl 2v-32 2-4 c-5f"),
  ("Cypriot", "1g5c-5 3 2-17 2-1 4 3"),
  ("Cypro_Minoan", "1nyo-2q"),
  ("Cyrillic", "sg-3o 3-4o 4lt-8 4j 25 38o-v nr5-2n han-1 18n5-1p y"),
  ("Deseret", "1fcw-27"),
  ("Devanagari", "1s0-28 5-e 3-p vhd-v mip-9"),
  ("Dives_Akuru", "1ji8-6 3 3-7 2-1 2-t 2-1 3-b a-9"),
  ("Dogra", "1jb4-1n"),
  ("Duployan", "2fpc-2y 6-c 4-8 8-9 3-3"),
  ("Egyptian_Hieroglyphs", "1o1s-ut"),
  ("Elbasan", "1fk0-13"),
  ("Elymaic", "1hpc-m"),
  ("Ethiopic", "3k0-20 2-3 3-6 2 2-3 3-14 2-3 3-w 2-3 3-6 2 2-3 3-e 2-1k 2-3 3-1u 3-v 4-p 547-m a-6 2-6*7 opv-5 3-5 3-5 a-6 2-6 1qk2-6 2-3 2-1 2-e"),
  ("Georgian", "3a8-11 2 6 3-16 2-3 2a9-16 3-2 37l-11 2 6"),
  ("Glagolitic", "8ow-2n 2e1t-6 2-g 3-6 2-1 2-4"),
  ("Gothic", "1f74-q"),
  ("Grantha", "1ibk-3 2-7 3-1 3-l 2-6 2-1 2-4 3-8 3-1 3-2 3 7 6-6 3-6 4-4"),
  ("Greek", "og-3 2-2 3-3 2 5 2 2-2 2 2-j 2-1q f-f 4yv-4 1f-4 5-4 2d 8x-l 3-5 3-11 3-5 3-7 2*3 2-u 3-1g 2-e 2-d 3-5 2-i 3-2 2-8 88 rb3 gyj-26 i 155s-1x"),
  ("Gujarati", "22p-2 2-8 2-2 2-l 2-6 2-1 2-4 3-9 2-2 2-2 3 g-3 3-b 8-6"),
  ("Gunjala_Gondi", "1kdc-5 2-1 2-10 2-1 2-5 8-9"),
  ("Gurmukhi", "1z5-2 2-5 5-1 3-l 2-6 2-1*3 3 2-4 5-1 3-2 4 8-3 2 8-g"),
  ("Han", "96o-p 2-2g d-5x 1c 2 q-8 f-3 qt-533 1t-g73 hkx-a5 3-2x n49-1 d-1 sgf-wyn x-37d 7-65 3-4g1 f-5rk 2e8-f1 15v-3t6 6-38f"),
  ("Hangul", "3cw-73 5yn-1 76-2l 36-u 1u-u nhe-s hw-8mb d-m 5-1c 7tx-u 4-5 3-5 3-5 3-2"),
  ("Hanifi_Rohingya", "1h4w-13 9-9"),
  ("Hanunoo", "4kg-k"),
  ("Hatran", "1gbk-i 2-1 6-4"),
  ("Hebrew", "13l-1i 9-q 5-5 1cfd-p 2-4 2 2-1 2-1 2-9"),
  ("Hiragana", "9j5-2d 7-2 23qa-7y j u-2 cry"),
  ("Imperial_Aramaic", "1g74-l 2-8"),
  ("Inherited", "lc-33 7q-1 cl-a r kh-3 3fg-u ea-2 2-c 2-6 5 7 4-1 5j-1r el-1 5f-w 30a-3 30-1 14km-f h-d r4 6b 38b 1139-19 3-m f5-2 i-7 3-6 v-3 h45v-6n"),
  ("Inscriptional_Pahlavi", "1gtc-i 6-7"),
  ("Inscriptional_Parthian", "1gsg-l 3-7"),
  ("Javanese", "xhc-25 3-9 5-1"),
  ("Kaithi", "1hts-1u b"),
  ("Kannada", "2gw-c 2-2 2-m 2-9 2-4 3-8 2-2 2-3 8-1 7-1 2-3 3-9 2-2"),
  ("Katakana", "9lt-2h 3-2 6p-f 5t-1a 2-2f 14b3-9 2-18 ytv-3 2-6 2-1 2 80-2 1f f-3"),
  ("Kawi", "1kow-g 2-14 4-r"),
  ("Kayah_Li", "xds-19 2"),
  ("Kharoshthi", "1gjk-3 2-1 6-7 2-2 2-s 3-2 5-9 8-8"),
  ("Khitan_Small_Script", "20o4 5cs-d1"),
  ("Khmer", "4n4-2l 3-9 7-9 dj-v"),
  ("Khojki", "1i4g-h 2-1a"),
  ("Khudawadi", "1i9c-1m 6-9"),
  ("Lao", "2v5-1 2 2-4 2-n 2 2-m 3-4 2 2-6 2-9 3-3"),
  ("Latin", "1t-p 7-p 1c g 6-m 2-u 2-cg 14-4 55o-11 7-1c 6-3 6-c 2-1x 1u-73 aa e h-c 3y-1 7 s i-14 254-v o83-2t 4-1r 6-1 2 2-4 p-d mp-16 2-8 2-3 fpz-6 t7-p 7-p 1ly-5 2-15 2-8 16iu-u 7-5"),
  ("Lepcha", "5j4-1j 4-e 4-2"),
  ("Limbu", "4xs-u 2-b 5-b 5 4-b"),
  ("Linear_A", "1fr4-8m a-l b-7"),
  ("Linear_B", "1ekg-b 2-p 2-i 2-1 2-e 3-d z-3e"),
  ("Lisu", "wk0-1b o8h"),
  ("Lycian", "1f28-s"),
  ("Lydian", "1gdc-p 6"),
  ("Mahajani", "1hzk-12"),
  ("Makasar", "1ko0-o"),
  ("Malayalam", "2kg-c 2-2 2-1e 2-2 2-5 5-f 3-p"),
  ("Mandaic", "1mo-r 3"),
  ("Manichaean", "1gow-12 5-b"),
  ("Marchen", "1k6o-v 3-l 2-d"),
  ("Masaram_Gondi", "1kao-6 2-1 2-17 4 2-1 2-8 9-9"),
  ("Medefaidrin", "20cg-2i"),
  ("Meetei_Mayek", "xr4-m 5m-19 3-9"),
  ("Mende_Kikakui", "2oe8-5g 3-f"),
  ("Meroitic_Cursive", "1ggw-n 5-j 3-19"),
  ("Meroitic_Hieroglyphs", "1gg0-v"),
  ("Miao", "20hs-22 5-1k 8-g"),
  ("Modi", "1iww-1w c-9"),
  ("Mongolian", "4qo-1 3 2-j 7-2g 8-16 1e46-c"),
  ("Mro", "1zk0-u 2-9 5-1"),
  ("Multani", "1i80-6 2 2-3 2-e 2-a"),
  ("Myanmar", "35s-4f u9t-u 2q-v"),
  ("Nabataean", "1g8w-u 9-8"),
  ("Nag_Mundari", "2nrk-15"),
  ("Nandinagari", "1jmo-7 3-19 3-a"),
  ("New_Tai_Lue", "51c-17 5-p 7-a 4-1"),
  ("Newa", "1iio-2j 2-4"),
  ("Nko", "1j4-1m 3-2"),
  ("Nushu", "20o1 cy7-az"),
  ("Nyiakeng_Puachue_Hmong", "2n0g-18 4-d 3-9 5-1"),
  ("Ogham", "4g0-s"),
  ("Ol_Chiki", "5lc-1b"),
  ("Old_Hungarian", "1h1c-1e e-1e 8-5"),
  ("Old_Italic", "1f5s-z a-2"),
  ("Old_North_Arabian", "1gn4-v"),
  ("Old_Permic", "1f80-16"),
  ("Old_Persian", "1fa8-z 5-d"),
  ("Old_Sogdian", "1hj4-13"),
  ("Old_South_Arabian", "1gm8-v"),
  ("Old_Turkic", "1gxs-20"),
  ("Old_Uyghur", "1hm8-p"),
  ("Oriya", "269-2 2-7 3-1 3-l 2-6 2-1 2-4 3-8 3-1 3-2 8-2 5-1 2-4 3-h"),
  ("Osage", "1fhs-z 5-z"),
  ("Osmanya", "1fgg-t 3-9"),
  ("Pahawh_Hmong", "1zpc-1x b-9 2-6 2-k 6-i"),
  ("Palmyrene", "1g80-v"),
  ("Pau_Cin_Hau", "1juo-1k"),
  ("Phags_Pa", "x8g-1j"),
  ("Phoenician", "1gcg-r 4"),
  ("Psalter_Pahlavi", "1gu8-h 8-3 d-6"),
  ("Rejang", "xf4-z c"),
  ("Runic", "4gw-22 4-a"),
  ("Samaritan", "1kw-19 3-e"),
  ("Saurashtra", "xa8-1x 9-b"),
  ("Sharada", "1i0w-2n"),
  ("Shavian", "1ff4-1b"),
  ("Siddham", "1itc-1h 3-11"),
  ("SignWriting", "2l8g-i3 g-4 2-e"),
  ("Sinhala", "2o1-2 2-h 4-n 2-8 2 3-6 4 5-5 2 2-7 7-9 3-2 1fcd-j"),
  ("Sogdian", "1hkg-15"),
  ("Sora_Sompeng", "1hw0-o 8-9"),
  ("Soyombo", "1jrk-2a"),
  ("Sundanese", "5fk-1r 75-7"),
  ("Syloti_Nagri", "x6o-18"),
  ("Syriac", "1ds-d 2-1n 3-2 7l-a"),
  ("Tagalog", "4jk-l a"),
  ("Tagbanwa", "4m8-c 2-2 2-1"),
  ("Tai_Le", "500-t 3-4"),
  ("Tai_Tham", "55s-1q 2-s 3-a 7-9 7-d"),
  ("Tai_Viet", "xog-1u p-4"),
  ("Takri", "1j0g-1l 7-9"),
  ("Tamil", "29u-1 2-5 4-2 2-3 4-1 2 2-1 4-1 4-2 4-b 5-4 4-2 2-3 3 7 f-k 1ih2-1d e"),
  ("Tangsa", "1zlc-26 2-9"),
  ("Tangut", "20o0 w-4qf 9-lb e9-8"),
  ("Telugu", "2dc-c 2-2 2-m 2-f 3-8 2-2 2-3 8-1 2-2 3 3-3 3-9 8-8"),
  ("Thaana", "1hc-1d"),
  ("Thai", "2rl-1l 6-r"),
  ("Tibetan", "2yo-1z 2-z 5-12 2-z 2-e 2-6 5-1"),
  ("Tifinagh", "8xc-1j 8-1 f"),
  ("Tirhuta", "1im8-1z 9-9"),
  ("Toto", "2nbk-u"),
  ("Ugaritic", "1f9c-t 2"),
  ("Vai", "wlc-8b"),
  ("Vithkuqi", "1fn4-a 2-e 2-6 2-1 2-a 2-e 2-6 2-1"),
  ("Wancho", "2ncw-1l 6"),
  ("Warang_Citi", "1jfk-2a d"),
  ("Yezidi", "1hfk-15 2-2 3-1"),
  ("Yi", "vls-wc 4-1i"),
  ("Zanabazar_Square", "1jpc-1z")]

def categoryAliases : List (String × String) :=
  [("Other", "C"), ("Control", "Cc"), ("cntrl", "Cc"), ("Format", "Cf"), ("Unassigned", "Cn"),
   ("Private_Use", "Co"), ("Surrogate", "Cs"), ("Letter", "L"), ("Cased_Letter", "LC"),
   ("Lowercase_Letter", "Ll"), ("Modifier_Letter", "Lm"), ("Other_Letter", "Lo"),
   ("Titlecase_Letter", "Lt"), ("Uppercase_Letter", "Lu"), ("Mark", "M"), ("Combining_Mark", "M"),
   ("Spacing_Mark", "Mc"), ("Enclosing_Mark", "Me"), ("Nonspacing_Mark", "Mn"), ("Number", "N"),
   ("Decimal_Number", "Nd"), ("digit", "Nd"), ("Letter_Number", "Nl"), ("Other_Number", "No"),
   ("Punctuation", "P"), ("punct", "P"), ("Connector_Punctuation", "Pc"),
   ("Dash_Punctuation", "Pd"), ("Close_Punctuation", "Pe"), ("Final_Punctuation", "Pf"),
   ("Initial_Punctuation", "Pi"), ("Other_Punctuation", "Po"), ("Open_Punctuation", "Ps"),
   ("Symbol", "S"), ("Currency_Symbol", "Sc"), ("Modifier_Symbol", "Sk"), ("Math_Symbol", "Sm"),
   ("Other_Symbol", "So"), ("Separator", "Z"), ("Line_Separator", "Zl"),
   ("Paragraph_Separator", "Zp"), ("Space_Separator", "Zs")]

/-- The form a property name is matched in: ASCII letters in lower case, without blanks,
underscores and hyphens. -/
def canonicalName (name : String) : String :=
  String.ofList ((name.toList.filter fun c => c != ' ' && c != '_' && c != '-').map Char.toLower)

def codeDigit (c : Char) : Nat :=
  if c.isDigit then c.toNat - '0'.toNat else c.toNat - 'a'.toNat + 10

def codeNumber (cs : List Char) : Nat := cs.foldl (fun n c => n * 36 + codeDigit c) 0

/-- The items of a table text, an item `x*n` standing for `x` repeated `n` times. -/
def rangeItems (text : String) : List String :=
  ((text.splitOn " ").filter (· != "")).flatMap fun item =>
    match item.splitOn "*" with
    | [x, n] => List.replicate (n.toNat?.getD 0) x
    | _ => [item]

/-- The ranges of a table text, each placed after the end of the one before. -/
def readRanges (text : String) : List (Nat × Nat) :=
  let step (acc : Nat × List (Nat × Nat)) (item : String) : Nat × List (Nat × Nat) :=
    let (gap, width) := match item.splitOn "-" with
      | [g, w] => (codeNumber g.toList, codeNumber w.toList)
      | _ => (codeNumber item.toList, 0)
    let lo := acc.1 + gap
    (lo + width, (lo, lo + width) :: acc.2)
  ((rangeItems text).foldl step (0, [])).2.reverse

def categoriesWhere (p : String → Bool) : List (Nat × Nat) :=
  (categoryTable.filter (p ·.1)).flatMap (readRanges ·.2)

/-- The gaps of a list of ranges sorted by their start, from `next` up to the last code
point. -/
def gapsFrom (next : Nat) : List (Nat × Nat) → List (Nat × Nat)
  | [] => if next ≤ 0x10FFFF then [(next, 0x10FFFF)] else []
  | (lo, hi) :: rest =>
    (if next < lo then [(next, lo - 1)] else []) ++ gapsFrom (max next (hi + 1)) rest

def unassignedRanges : List (Nat × Nat) :=
  gapsFrom 0 ((categoriesWhere fun _ => true).mergeSort fun a b => a.1 ≤ b.1)

/-- The code points of a general category, by its one- or two-letter name (or `LC`). -/
def categoryRanges? (name : String) : Option (List (Nat × Nat)) :=
  if name == "Cn" then some unassignedRanges
  else if name == "LC" then some (categoriesWhere fun c => c == "Lu" || c == "Ll" || c == "Lt")
  else if name.length == 1 then
    let rs := categoriesWhere (·.startsWith name)
    if rs.isEmpty then none else some rs
  else (categoryTable.find? (·.1 == name)).map (readRanges ·.2)

/-- The code points a property name stands for, and whether a class of it holds them (true) or
all others (false); none for a name that is no property. -/
def unicodeProperty? (name : String) : Option (List (Nat × Nat) × Bool) :=
  let key := canonicalName name
  if key == "any" then some ([(0, 0x10FFFF)], true)
  else if key == "assigned" then some (unassignedRanges, false)
  else if key == "ascii" then some ([(0, 0x7F)], true)
  else
    let category := ((categoryTable.map (·.1)) ++ ["C", "L", "M", "N", "P", "S", "Z", "LC", "Cn"]).find?
      (canonicalName · == key)
    match category with
    | some c => (categoryRanges? c).map (·, true)
    | none =>
      match scriptTable.find? (canonicalName ·.1 == key) with
      | some (_, text) => some (readRanges text, true)
      | none =>
        match categoryAliases.find? (canonicalName ·.1 == key) with
        | some (_, c) => (categoryRanges? c).map (·, true)
        | none => none

end Bindery.Regex
